import Criteria.Proofs.Document.Run

namespace Criteria

namespace Document

variable {d e : Document} {t : Tree} {a : Action}

/-- What saving a document gives and makes of the document. -/
inductive Saving (d : Document) : Except Error Unit × Document → Prop
  | done (path : Option Path) (saved : Option SavedQuery) :
    Saving d (.ok (), { d with path, saved, isDirty := false })
  | failed (error : Error) (saved : Option SavedQuery) : Saving d (.error error, { d with saved })

theorem saving_writeTo (d : Document) (s : Storage Id) (now : Timestamp) (path : Path) :
    d.Saving (Id.run (d.writeTo s now path)) := by
  simp only [writeTo, Id.run, bind, pure]
  split
  · exact .failed _ _
  · exact .done d.path _

theorem saving_save (d : Document) (s : Storage Id) (now : Timestamp) :
    d.Saving (Id.run (d.save s now)) := by
  rw [save]
  split
  · exact .failed _ d.saved
  · next path _ => exact d.saving_writeTo s now path

theorem saving_saveAs (d : Document) (s : Storage Id) (now : Timestamp) (target : Path) :
    d.Saving (Id.run (d.saveAs s now target)) := by
  have hwrite := d.saving_writeTo s now target
  simp only [saveAs, Id.run, bind, pure] at hwrite ⊢
  generalize writeTo s now target d = written at hwrite ⊢
  cases hwrite with
  | done path saved => exact .done (some target) saved
  | failed error saved => exact .failed error saved

/-- What comes of an action that saves the document. -/
def saveResult? (d : Document) : Action → Option (Except Error Unit)
  | .save s now => some (Id.run (d.save s now)).1
  | .saveAs s now path => some (Id.run (d.saveAs s now path)).1
  | _ => none

theorem saving_perform {result : Except Error Unit} (h : d.saveResult? a = some result) :
    d.Saving (result, d.perform a) := by
  cases a with
  | save s now =>
    obtain rfl := Option.some.inj h
    exact d.saving_save s now
  | saveAs s now path =>
    obtain rfl := Option.some.inj h
    exact d.saving_saveAs s now path
  | _ => cases h

theorem clean_of_saved (h : d.saveResult? a = some (.ok ())) :
    (d.perform a).isDirty = false ∧ (d.perform a).tree = d.tree := by
  have hsaving := saving_perform h
  generalize d.perform a = e at hsaving
  cases hsaving with
  | done path saved => exact ⟨rfl, rfl⟩

theorem perform_of_not_saved {error : Error} (h : d.saveResult? a = some (.error error)) :
    ∃ saved, d.perform a = { d with saved } := by
  have hsaving := saving_perform h
  generalize d.perform a = e at hsaving
  cases hsaving with
  | failed error saved => exact ⟨saved, rfl⟩

/-- An action that does not save sets the mark, or leaves both the mark and the tree alone. -/
theorem dirty_or_kept (h : d.saveResult? a = none) : (d.perform a).isDirty = true ∨
    (d.perform a).isDirty = d.isDirty ∧ (d.perform a).tree = d.tree := by
  cases a with
  | apply today m =>
    rw [perform]
    obtain ⟨ids, hids | ⟨history, htouched⟩⟩ := d.apply_snd today m
    · rw [hids]
      exact .inr ⟨rfl, rfl⟩
    · rw [htouched]
      exact .inl rfl
  | undo =>
    rw [perform, undo?]
    cases d.history.undo? with
    | none => exact .inr ⟨rfl, rfl⟩
    | some history => exact .inl rfl
  | redo =>
    rw [perform, redo?]
    cases d.history.redo? with
    | none => exact .inr ⟨rfl, rfl⟩
    | some history => exact .inl rfl
  | mergeOptions field page =>
    rw [perform, mergeOptions?]
    cases d.catalog.mergeOptions? field page <;> exact .inr ⟨rfl, rfl⟩
  | reset t => exact .inl rfl
  | openBatch | closeBatch | setCatalog | setLintOptions => exact .inr ⟨rfl, rfl⟩
  | save | saveAs => cases h

/-- The tree that was saved last, after an action. -/
def storedAfter (d : Document) (a : Action) (stored : Tree) : Tree :=
  match d.saveResult? a with
  | some (.ok ()) => d.tree
  | _ => stored

/-- The tree that was saved last, after a run. -/
def stored (d : Document) (t : Tree) : List Action → Tree
  | [] => t
  | a :: actions => (d.perform a).stored (d.storedAfter a t) actions

/-- The mark is only missing if the tree is the one that was saved last. -/
def IsMarked (d : Document) (t : Tree) : Prop := d.isDirty = false → d.tree = t

theorem IsMarked.perform (h : d.IsMarked t) (a : Action) :
    (d.perform a).IsMarked (d.storedAfter a t) := by
  rw [storedAfter]
  cases hresult : d.saveResult? a with
  | none =>
    intro hclean
    rcases dirty_or_kept hresult with hdirty | ⟨hdirty, htree⟩
    · cases hdirty.symm.trans hclean
    · exact htree.trans (h (hdirty ▸ hclean))
  | some result =>
    cases result with
    | ok => exact fun _ => (clean_of_saved hresult).2
    | error error =>
      obtain ⟨saved, hsame⟩ := perform_of_not_saved hresult
      rw [hsame]
      exact h

theorem IsMarked.run (h : d.IsMarked t) (actions : List Action) :
    (d.run actions).IsMarked (d.stored t actions) := by
  induction actions generalizing d t with
  | nil => exact h
  | cons a actions ih => exact ih (h.perform a)

theorem IsNew.isDirty (h : d.IsNew) : d.isDirty = false := by
  cases h with
  | create => rfl
  | ofText h =>
    simp only [Document.ofText] at h
    split at h
    · cases h
      rfl
    · split at h
      · cases h
        rfl
      · cases h

end Document

/-- A document that has just been made or opened has no mark of unsaved changes. Whatever is done
with it, if it has none, its tree is the one that it was made, opened or saved with last. A save that
succeeds takes the mark away and keeps the tree. One that fails changes at most the saved query, and
so neither the tree, the history, the version and the mark nor the file that backs the document. -/
theorem unmarked_tree_is_stored (d : Document) (hn : d.IsNew) (actions : List Document.Action) :
    d.isDirty = false ∧
      ((d.run actions).isDirty = false → (d.run actions).tree = d.stored d.tree actions) ∧
      ∀ a, ((d.run actions).saveResult? a = some (.ok ()) →
          ((d.run actions).perform a).isDirty = false ∧
            ((d.run actions).perform a).tree = (d.run actions).tree) ∧
        ∀ error, (d.run actions).saveResult? a = some (.error error) →
          ∃ saved, (d.run actions).perform a = { d.run actions with saved } := by
  have hstart : d.IsMarked d.tree := fun _ => rfl
  refine ⟨hn.isDirty, hstart.run actions, fun a => ⟨?_, ?_⟩⟩
  · exact Document.clean_of_saved
  · exact fun error => Document.perform_of_not_saved

/-- A batch that is saved, rewritten, not saved for want of room, and saved again. -/
theorem unmarked_tree_is_stored_batch :
    let day : Date := ⟨2024, 1, 1, by decide, by decide, by decide⟩
    let noon : Timestamp := ⟨day, ⟨12, 0, 0, 0⟩⟩
    let room : Storage Id :=
      ⟨fun _ => none, fun _ => .error "", fun _ _ => .ok (), fun _ => .ok (), fun _ => [],
        fun _ => none⟩
    let full : Storage Id := { room with write := fun _ _ => .error "full" }
    let d := Document.create (.empty "r") ⟨[]⟩ {}
    let before : List Document.Action := [.openBatch "b", .apply day (.toggleNegation "r"),
      .saveAs room noon ⟨"a.json"⟩, .apply day (.setCombinator "r" .or)]
    let e := d.run (before ++ [.save full noon, .save room noon])
    d.IsNew ∧ (d.run before).isDirty = true ∧
      (d.run before).saveResult? (.save full noon) = some (.error (.unwritable "full")) ∧
      (∃ saved, (d.run before).perform (.save full noon) = { d.run before with saved }) ∧
      e.isDirty = false ∧ e.tree ≠ d.tree ∧
      e.tree = d.stored d.tree (before ++ [.save full noon, .save room noon]) := by
  intro day noon room full d before e
  have hn : d.IsNew := .create _ _ _
  have hfails : (d.run before).saveResult? (.save full noon) = some (.error (.unwritable "full")) :=
    rfl
  have hclean : e.isDirty = false := rfl
  refine ⟨hn, rfl, hfails, ?_, hclean, by decide, ?_⟩
  · exact ((unmarked_tree_is_stored d hn before).2.2 _).2 _ hfails
  · exact (unmarked_tree_is_stored d hn _).2.1 hclean

end Criteria
