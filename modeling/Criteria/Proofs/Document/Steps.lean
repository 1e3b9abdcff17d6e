import Criteria.Proofs.Document.Run
import Criteria.Proofs.History.Run

namespace Criteria.Document

/-- Whether an edit is recorded. -/
def records (d : Document) (today : Date) (m : Mutation) : Bool :=
  (d.apply today m).1.toOption.any (·.changed)

theorem records_cases (d : Document) (today : Date) (m : Mutation) :
    (d.records today m = false ∧ (d.apply today m).2.history = d.history) ∨
      (d.records today m = true ∧ ∃ t, t ≠ d.tree ∧
        (d.apply today m).2.history = d.history.push t (some m.label)) := by
  rw [records, apply]
  cases m.apply ⟨d.catalog, today, d.options.maxDepth⟩ d.ids d.tree with
  | mk result ids =>
    cases result with
    | error e => exact .inl ⟨rfl, rfl⟩
    | ok t =>
      dsimp only
      split
      · exact .inl ⟨rfl, rfl⟩
      · next ht => exact .inr ⟨rfl, t, ht, rfl⟩

/-- The steps that an action takes in the history. -/
def stepsOf (d : Document) : Action → List (History.Step Tree)
  | .apply today m =>
    if d.records today m then [.push (d.apply today m).2.tree (some m.label)] else []
  | .undo => [.undo]
  | .redo => [.redo]
  | .openBatch label => [.openBatch, .nameBatch label]
  | .closeBatch => [.closeBatch]
  | .reset t => [.reset t]
  | .mergeOptions .. | .setCatalog _ | .setLintOptions _ | .save .. | .saveAs .. => []

/-- The steps that a run takes in the history. -/
def steps (d : Document) : List Action → List (History.Step Tree)
  | [] => []
  | a :: actions => d.stepsOf a ++ (d.perform a).steps actions

theorem history_perform (d : Document) (a : Action) :
    (d.perform a).history = d.history.run (d.stepsOf a) := by
  cases a with
  | apply today m =>
    rw [perform, stepsOf]
    rcases d.records_cases today m with ⟨hr, hh⟩ | ⟨hr, t, -, hh⟩
    · rw [if_neg (Bool.not_eq_true _ ▸ hr), hh]
      rfl
    · have ht : (d.apply today m).2.tree = t := by rw [tree, hh, History.current_push]
      rw [if_pos hr, ht, hh]
      rfl
  | undo =>
    rw [perform]
    change _ = d.history.undo?.getD d.history
    rw [undo?]
    cases d.history.undo? <;> rfl
  | redo =>
    rw [perform]
    change _ = d.history.redo?.getD d.history
    rw [redo?]
    cases d.history.redo? <;> rfl
  | mergeOptions field page =>
    rw [perform, mergeOptions?]
    cases d.catalog.mergeOptions? field page <;> rfl
  | save s now =>
    obtain ⟨saved, isDirty, h⟩ := d.save_eq s now
    rw [perform, h]
    rfl
  | saveAs s now target =>
    obtain ⟨path, saved, isDirty, h⟩ := d.saveAs_eq s now target
    rw [perform, h]
    rfl
  | openBatch | closeBatch | reset | setCatalog | setLintOptions => rfl

theorem history_run (d : Document) (actions : List Action) :
    (d.run actions).history = d.history.run (d.steps actions) := by
  induction actions generalizing d with
  | nil => rfl
  | cons a actions ih =>
    rw [steps, History.run_append, ← history_perform]
    exact ih (d.perform a)

theorem changing_stepsOf (d : Document) (a : Action) : d.history.Changing (d.stepsOf a) := by
  cases a with
  | apply today m =>
    rw [stepsOf]
    rcases d.records_cases today m with ⟨hr, -⟩ | ⟨hr, t, ht, hh⟩
    · rw [if_neg (Bool.not_eq_true _ ▸ hr)]
      trivial
    · have htree : (d.apply today m).2.tree = t := by rw [tree, hh, History.current_push]
      rw [if_pos hr, htree]
      refine ⟨fun x label he => ?_, trivial⟩
      cases he
      exact ht
  | undo | redo | openBatch | closeBatch | reset =>
    simp only [stepsOf, History.Changing, reduceCtorEq, false_implies, implies_true, and_self]
  | mergeOptions | setCatalog | setLintOptions | save | saveAs => trivial

/-- Whatever is done with a document, each tree that is recorded differs from the one before. -/
theorem changing_steps (d : Document) (actions : List Action) :
    d.history.Changing (d.steps actions) := by
  induction actions generalizing d with
  | nil => trivial
  | cons a actions ih =>
    refine (d.changing_stepsOf a).append ?_
    rw [← history_perform]
    exact ih (d.perform a)

end Criteria.Document
