import Criteria.Document
import Criteria.Proofs.History

namespace Criteria.Document

inductive Action where
  | apply (today : Date) (m : Mutation)
  | undo
  | redo
  | openBatch (label : String)
  | closeBatch
  | reset (t : Tree)
  | mergeOptions (field : String) (page : OptionPage)
  | setCatalog (catalog : Catalog)
  | setLintOptions (o : Lint.Options)
  /-- Saving with files that answer in some way, whether or not it succeeds. -/
  | save (s : Storage Id) (now : Timestamp)
  | saveAs (s : Storage Id) (now : Timestamp) (path : Path)

/-- The document after an action; one that is rejected, or has nothing to do, still counts. -/
def perform (d : Document) : Action → Document
  | .apply today m => (d.apply today m).2
  | .undo => d.undo?.getD d
  | .redo => d.redo?.getD d
  | .openBatch label => d.openBatch label
  | .closeBatch => d.closeBatch
  | .reset t => d.reset t
  | .mergeOptions field page => (d.mergeOptions? field page).getD d
  | .setCatalog catalog => d.setCatalog catalog
  | .setLintOptions o => d.setLintOptions o
  | .save s now => Prod.snd <| Id.run <| d.save s now
  | .saveAs s now path => Prod.snd <| Id.run <| d.saveAs s now path

def run (d : Document) (actions : List Action) : Document := actions.foldl perform d

/-- A document that has just been made or opened. -/
inductive IsNew : Document → Prop
  | create (t : Tree) (catalog : Catalog) (options : Options) : IsNew (create t catalog options)
  | ofText {path : Path} {text : String} {catalog : Catalog} {options : Options} {d : Document}
      (h : ofText path text catalog options = .ok d) : IsNew d

variable {d d' : Document}

theorem IsNew.history (h : d.IsNew) :
    d.history = .start d.tree d.options.historyLimit := by
  cases h with
  | create => rfl
  | ofText h =>
    simp only [Document.ofText] at h
    split at h
    · cases h
      rfl
    · split at h
      · cases h
        rfl
      · cases h

theorem history_apply (d : Document) (today : Date) (m : Mutation) :
    (d.apply today m).2.history = d.history ∨
      ∃ t, (m.apply ⟨d.catalog, today, d.options.maxDepth⟩ d.ids d.tree).1 = .ok t ∧ t ≠ d.tree ∧
        (d.apply today m).2.history = d.history.push t (some m.label) := by
  rw [apply]
  cases h : m.apply ⟨d.catalog, today, d.options.maxDepth⟩ d.ids d.tree with
  | mk result ids =>
    cases result with
    | error e => exact .inl rfl
    | ok t =>
      dsimp only
      split
      · exact .inl rfl
      · next ht => exact .inr ⟨t, rfl, ht, rfl⟩

theorem history_undo? (h : d.undo? = some d') : d.history.undo? = some d'.history := by
  obtain ⟨hist, hh, rfl⟩ := Option.map_eq_some_iff.1 h
  exact hh

theorem history_redo? (h : d.redo? = some d') : d.history.redo? = some d'.history := by
  obtain ⟨hist, hh, rfl⟩ := Option.map_eq_some_iff.1 h
  exact hh

theorem writeTo_eq (d : Document) (s : Storage Id) (now : Timestamp) (path : Path) :
    ∃ isDirty, (Id.run (d.writeTo s now path)).2 = { d.updateSaved now with isDirty } := by
  simp only [writeTo, Id.run, bind, pure]
  split
  · exact ⟨d.isDirty, rfl⟩
  · exact ⟨false, rfl⟩

theorem save_eq (d : Document) (s : Storage Id) (now : Timestamp) :
    ∃ saved isDirty, (Id.run (d.save s now)).2 = { d with saved, isDirty } := by
  rw [save]
  split
  · exact ⟨d.saved, d.isDirty, rfl⟩
  · next path _ =>
    obtain ⟨isDirty, h⟩ := d.writeTo_eq s now path
    exact ⟨_, isDirty, h⟩

theorem saveAs_eq (d : Document) (s : Storage Id) (now : Timestamp) (target : Path) :
    ∃ path saved isDirty,
      (Id.run (d.saveAs s now target)).2 = { d with path, saved, isDirty } := by
  obtain ⟨isDirty, h⟩ := d.writeTo_eq s now target
  simp only [saveAs, Id.run, bind, pure] at h ⊢
  cases hw : writeTo s now target d with
  | mk result d' =>
    rw [hw] at h
    cases h
    cases result with
    | error e => exact ⟨d.path, _, isDirty, rfl⟩
    | ok => exact ⟨some target, _, isDirty, rfl⟩

/-- An edit uses ids, and beyond that changes only the history, making it known. -/
theorem apply_snd (d : Document) (today : Date) (m : Mutation) :
    ∃ ids, (d.apply today m).2 = { d with ids } ∨
      ∃ history, (d.apply today m).2 = touched { d with ids, history } := by
  rw [apply]
  cases m.apply ⟨d.catalog, today, d.options.maxDepth⟩ d.ids d.tree with
  | mk result ids =>
    refine ⟨ids, ?_⟩
    cases result with
    | error e => exact .inl rfl
    | ok t =>
      dsimp only
      split
      · exact .inl rfl
      · exact .inr ⟨_, rfl⟩

theorem options_apply (d : Document) (today : Date) (m : Mutation) :
    (d.apply today m).2.options = d.options := by
  obtain ⟨ids, h | ⟨history, h⟩⟩ := d.apply_snd today m
  · rw [h]
  · rw [h]
    rfl

theorem options_perform (d : Document) (a : Action) : (d.perform a).options = d.options := by
  cases a with
  | apply today m => exact d.options_apply today m
  | undo =>
    rw [perform, undo?]
    cases d.history.undo? <;> rfl
  | redo =>
    rw [perform, redo?]
    cases d.history.redo? <;> rfl
  | mergeOptions field page =>
    rw [perform, mergeOptions?]
    cases d.catalog.mergeOptions? field page <;> rfl
  | save s now =>
    obtain ⟨saved, isDirty, h⟩ := d.save_eq s now
    rw [perform, h]
  | saveAs s now target =>
    obtain ⟨path, saved, isDirty, h⟩ := d.saveAs_eq s now target
    rw [perform, h]
  | openBatch | closeBatch | reset | setCatalog | setLintOptions => rfl

/-- Whether edits in documents with these options keep a property of trees. -/
def Keeps (P : Tree → Prop) (options : Options) : Prop :=
  ∀ (m : Mutation) (ctx : EditContext) (ids : IdSource) (t t' : Tree),
    ctx.maxDepth = options.maxDepth → P t → (m.apply ctx ids t).1 = .ok t' → P t'

variable {P : Tree → Prop}

theorem all_perform (hP : d.history.All P) (a : Action)
    (ha : ∀ today m t, a = .apply today m →
      (m.apply ⟨d.catalog, today, d.options.maxDepth⟩ d.ids d.tree).1 = .ok t → P t)
    (hr : ∀ t, a = .reset t → P t) : (d.perform a).history.All P := by
  cases a with
  | apply today m =>
    rcases d.history_apply today m with he | ⟨t, ht, -, he⟩
    · rw [perform, he]
      exact hP
    · rw [perform, he]
      exact hP.push (ha today m t rfl ht) _
  | undo =>
    rw [perform]
    cases hu : d.undo? with
    | none => exact hP
    | some d' => exact hP.undo? (history_undo? hu)
  | redo =>
    rw [perform]
    cases hu : d.redo? with
    | none => exact hP
    | some d' => exact hP.redo? (history_redo? hu)
  | reset t => exact History.all_start (hr t rfl)
  | mergeOptions field page =>
    rw [perform, mergeOptions?]
    cases d.catalog.mergeOptions? field page <;> exact hP
  | save s now =>
    obtain ⟨saved, isDirty, h⟩ := d.save_eq s now
    rw [perform, h]
    exact hP
  | saveAs s now target =>
    obtain ⟨path, saved, isDirty, h⟩ := d.saveAs_eq s now target
    rw [perform, h]
    exact hP
  | openBatch | closeBatch | setCatalog | setLintOptions => exact hP

/-- What edits keep and trees that replace the tree have is true of all snapshots of a run. -/
theorem all_run (hk : Keeps P d.options) (hP : d.history.All P) (actions : List Action)
    (hr : ∀ t, .reset t ∈ actions → P t) : (d.run actions).history.All P := by
  induction actions generalizing d with
  | nil => exact hP
  | cons a actions ih =>
    refine ih ?_ (all_perform hP a ?_ ?_) ?_
    · rw [options_perform]
      exact hk
    · rintro today m t rfl ht
      exact hk m _ _ _ _ rfl hP.current ht
    · rintro t rfl
      exact hr t List.mem_cons_self
    · exact fun t ht => hr t (List.mem_cons_of_mem _ ht)

end Criteria.Document
