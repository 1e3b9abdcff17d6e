import Criteria.Proofs.Document.Run

namespace Criteria

namespace Document

/-- The findings are those of the current tree with the current catalog and options. -/
def IsLinted (d : Document) : Prop := d.findings = Lint.tree d.tree d.catalog d.lintOptions

/-- What an action can do to the version and the findings. -/
inductive Advance (d e : Document) : Prop
  | kept (version : e.version = d.version) (tree : e.tree = d.tree)
      (catalog : e.catalog = d.catalog) (lintOptions : e.lintOptions = d.lintOptions)
      (findings : e.findings = d.findings)
  | relinted (version : e.version = d.version) (tree : e.tree = d.tree)
      (catalog : e.catalog = d.catalog) (linted : e.IsLinted)
  | raised (version : e.version = d.version + 1) (linted : e.IsLinted)

variable {d e : Document}

theorem isLinted_relint (d : Document) : d.relint.IsLinted := rfl

theorem Advance.isLinted (h : d.Advance e) (hd : d.IsLinted) : e.IsLinted := by
  cases h with
  | kept _ htree hcatalog hoptions hfindings =>
    rw [IsLinted, htree, hcatalog, hoptions, hfindings]
    exact hd
  | relinted _ _ _ hlinted => exact hlinted
  | raised _ hlinted => exact hlinted

theorem Advance.version_le (h : d.Advance e) : d.version ≤ e.version := by
  cases h with
  | kept hversion => exact Nat.le_of_eq hversion.symm
  | relinted hversion => exact Nat.le_of_eq hversion.symm
  | raised hversion =>
    rw [hversion]
    exact Nat.le_succ _

/-- A version belongs to one tree and one catalog. -/
theorem Advance.same_of_version (h : d.Advance e) (hv : e.version = d.version) :
    e.tree = d.tree ∧ e.catalog = d.catalog := by
  cases h with
  | kept _ htree hcatalog => exact ⟨htree, hcatalog⟩
  | relinted _ htree hcatalog => exact ⟨htree, hcatalog⟩
  | raised hversion => exact absurd (hversion.symm.trans hv) (Nat.succ_ne_self _)

theorem Advance.version_lt (h : d.Advance e) (hne : e.tree ≠ d.tree ∨ e.catalog ≠ d.catalog) :
    d.version < e.version := by
  apply Nat.lt_of_le_of_ne h.version_le
  intro hv
  obtain ⟨htree, hcatalog⟩ := h.same_of_version hv.symm
  rcases hne with hne | hne
  · exact hne htree
  · exact hne hcatalog

theorem advance_refl (d : Document) : d.Advance d := .kept rfl rfl rfl rfl rfl

theorem advance_touched (d : Document) (ids : IdSource) (history : History Tree) :
    d.Advance (touched { d with ids, history }) :=
  .raised rfl (isLinted_relint _)

theorem advance_apply (d : Document) (today : Date) (m : Mutation) :
    d.Advance (d.apply today m).2 := by
  obtain ⟨ids, h | ⟨history, h⟩⟩ := d.apply_snd today m
  · rw [h]
    exact .kept rfl rfl rfl rfl rfl
  · rw [h]
    exact d.advance_touched ids history

-- A batch that has just been opened has no snapshot yet, so its name goes to none.
theorem tree_openBatch (d : Document) (label : String) : (d.openBatch label).tree = d.tree := rfl

theorem advance_perform (d : Document) (a : Action) : d.Advance (d.perform a) := by
  cases a with
  | apply today m => exact d.advance_apply today m
  | undo =>
    rw [perform]
    cases hu : d.undo? with
    | none => exact d.advance_refl
    | some e =>
      obtain ⟨history, -, rfl⟩ := Option.map_eq_some_iff.1 hu
      exact d.advance_touched d.ids history
  | redo =>
    rw [perform]
    cases hu : d.redo? with
    | none => exact d.advance_refl
    | some e =>
      obtain ⟨history, -, rfl⟩ := Option.map_eq_some_iff.1 hu
      exact d.advance_touched d.ids history
  | openBatch label => exact .kept rfl (d.tree_openBatch label) rfl rfl rfl
  | closeBatch => exact .kept rfl rfl rfl rfl rfl
  | reset t => exact d.advance_touched (d.ids.observe t) (d.history.reset t)
  | mergeOptions field page =>
    rw [perform, mergeOptions?]
    cases d.catalog.mergeOptions? field page with
    | none => exact d.advance_refl
    | some catalog => exact .raised rfl (isLinted_relint _)
  | setCatalog catalog => exact .raised rfl (isLinted_relint _)
  | setLintOptions o => exact .relinted rfl rfl rfl (isLinted_relint _)
  | save s now =>
    obtain ⟨saved, isDirty, h⟩ := d.save_eq s now
    rw [perform, h]
    exact .kept rfl rfl rfl rfl rfl
  | saveAs s now target =>
    obtain ⟨path, saved, isDirty, h⟩ := d.saveAs_eq s now target
    rw [perform, h]
    exact .kept rfl rfl rfl rfl rfl

theorem IsNew.isLinted (h : d.IsNew) : d.IsLinted := by
  cases h with
  | create => exact isLinted_relint _
  | ofText h =>
    simp only [Document.ofText] at h
    split at h
    · cases h
      exact isLinted_relint _
    · split at h
      · cases h
        exact isLinted_relint _
      · cases h

theorem isLinted_run (hd : d.IsLinted) (actions : List Action) : (d.run actions).IsLinted := by
  induction actions generalizing d with
  | nil => exact hd
  | cons a actions ih => exact ih ((d.advance_perform a).isLinted hd)

end Document

/-- However a document has been worked on, its findings are those of its tree with its catalog and
options. No action lowers its version, and each that changes the tree or the catalog raises it. -/
theorem findings_and_version_follow (d : Document) (hn : d.IsNew) (actions : List Document.Action) :
    (d.run actions).findings
        = Lint.tree (d.run actions).tree (d.run actions).catalog (d.run actions).lintOptions ∧
      ∀ a, (d.run actions).version ≤ ((d.run actions).perform a).version ∧
        (((d.run actions).perform a).tree ≠ (d.run actions).tree ∨
            ((d.run actions).perform a).catalog ≠ (d.run actions).catalog →
          (d.run actions).version < ((d.run actions).perform a).version) := by
  refine ⟨Document.isLinted_run hn.isLinted actions, ?_⟩
  intro a
  have hstep := (d.run actions).advance_perform a
  exact ⟨hstep.version_le, hstep.version_lt⟩

/-- A batch that is undone, with other options for the linter, and then made again. -/
theorem findings_and_version_follow_batch :
    let day : Date := ⟨2024, 1, 1, by decide, by decide, by decide⟩
    let t : Tree := ⟨⟨"r", .and, false, none⟩, [.condition ⟨"c", "age", .equals, .null, none⟩]⟩
    let d := Document.create t ⟨[]⟩ {}
    let e := d.run [.openBatch "b", .apply day (.deleteNode "c"), .apply day (.addGroup "r" none),
      .undo, .setLintOptions ⟨Lint.standardRules, ["empty-group"]⟩]
    d.IsNew ∧ e.findings = Lint.tree e.tree e.catalog e.lintOptions ∧
      (e.perform .redo).tree ≠ e.tree ∧ e.version < (e.perform .redo).version := by
  intro day t d e
  have hn : d.IsNew := .create t _ _
  have hne : (e.perform .redo).tree ≠ e.tree := by decide
  refine ⟨hn, (findings_and_version_follow d hn _).1, hne, ?_⟩
  exact ((findings_and_version_follow d hn _).2 .redo).2 (.inl hne)

end Criteria
