import Criteria.Proofs.History

namespace Criteria

namespace History

inductive Step (α : Type) where
  | push (state : α) (label : Option String)
  | undo
  | redo
  | reset (state : α)
  | openBatch
  | nameBatch (label : String)
  | closeBatch
  deriving DecidableEq

namespace Step

variable {α : Type}

/-- Whether the step has nothing to do with batches. -/
def isPlain : Step α → Bool
  | push .. | undo | redo | reset _ => true
  | openBatch | nameBatch _ | closeBatch => false

/-- Whether the step leaves an open batch open and the log in being. -/
def isWithinBatch : Step α → Bool
  | push .. | undo | redo | nameBatch _ => true
  | reset _ | openBatch | closeBatch => false

/-- Whether the step writes to the log or to the open batch. -/
def isWriting : Step α → Bool
  | push .. | nameBatch _ => true
  | undo | redo | reset _ | openBatch | closeBatch => false

theorem isWriting_of_isWithinBatch {steps : List (Step α)}
    (hs : ∀ s ∈ steps, s.isWithinBatch = true) (hu : undo ∉ steps) (hr : redo ∉ steps) :
    ∀ s ∈ steps, s.isWriting = true := by
  intro s hm
  have hwithin := hs s hm
  cases s with
  | push | nameBatch => rfl
  | undo => exact absurd hm hu
  | redo => exact absurd hm hr
  | reset | openBatch | closeBatch => cases hwithin

/-- The state that is recorded, with its name. -/
def pushed? : Step α → Option (α × Option String)
  | push x label => some (x, label)
  | _ => none

/-- The name that is given to the batch. -/
def named? : Step α → Option String
  | nameBatch label => some label
  | _ => none

end Step

variable {α β τ : Type}

/-- The history after a step; one that has nothing to do changes nothing. -/
def perform (h : History α) : Step α → History α
  | .push x label => h.push x label
  | .undo => h.undo?.getD h
  | .redo => h.redo?.getD h
  | .reset x => h.reset x
  | .openBatch => h.openBatch
  | .nameBatch label => h.nameBatch label
  | .closeBatch => h.closeBatch

def run (h : History α) (steps : List (Step α)) : History α := steps.foldl perform h

theorem run_cons (h : History α) (s : Step α) (steps : List (Step α)) :
    h.run (s :: steps) = (h.perform s).run steps := rfl

theorem run_append (h : History α) (steps later : List (Step α)) :
    h.run (steps ++ later) = (h.run steps).run later := List.foldl_append

/-- Whether every state that the steps record differs from the one it follows. -/
def Changing (h : History α) : List (Step α) → Prop
  | [] => True
  | s :: steps => (∀ x label, s = .push x label → x ≠ h.current) ∧ (h.perform s).Changing steps

theorem Changing.append {h : History α} {steps later : List (Step α)} (hs : h.Changing steps)
    (hl : (h.run steps).Changing later) : h.Changing (steps ++ later) := by
  induction steps generalizing h with
  | nil => exact hl
  | cons s steps ih => exact ⟨hs.1, ih hs.2 hl⟩

/-- The history with all states replaced by their images. -/
def map (f : α → β) (h : History α) : History β :=
  { h with
    snapshots := h.snapshots.map fun s => ⟨f s.state, s.label⟩
    cursor_lt := by simpa only [List.length_map] using h.cursor_lt }

variable {h : History α} {f : α → β}

theorem now_map (h : History α) (f : α → β) : (h.map f).now = ⟨f h.current, h.now.label⟩ := by
  simp only [now, map, current, List.getElem_map]

theorem push_map (h : History α) (f : α → β) (x : α) (label : Option String) :
    (h.push x label).map f = (h.map f).push (f x) label := by
  have hin : (h.map f).inBatchSnapshot = h.inBatchSnapshot := rfl
  cases hb : h.inBatchSnapshot with
  | true =>
    rw [push, push, if_pos hb, if_pos (hin.trans hb)]
    refine History.ext ?_ rfl rfl rfl
    simp only [map, List.map_set, now, List.getElem_map]
  | false =>
    rw [push, push, if_neg (Bool.not_eq_true _ ▸ hb), if_neg (Bool.not_eq_true _ ▸ hin.trans hb)]
    simp only [map, List.map_drop, List.map_append, List.map_take, List.map_cons, List.map_nil,
      List.length_append, List.length_take, List.length_map, List.length_singleton]

theorem undo?_map (h : History α) (f : α → β) : (h.map f).undo? = h.undo?.map (map f) := by
  cases hu : h.undo? with
  | none => exact undo?_eq_none.2 (undo?_eq_none (h := h).1 hu)
  | some h' =>
    obtain ⟨hc, rfl⟩ := undo?_eq_some.1 hu
    exact undo?_eq_some.2 ⟨hc, rfl⟩

theorem redo?_map (h : History α) (f : α → β) : (h.map f).redo? = h.redo?.map (map f) := by
  have hlen : (h.map f).snapshots.length = h.snapshots.length := List.length_map _
  cases hr : h.redo? with
  | none => exact redo?_eq_none.2 ((redo?_eq_none.1 hr).trans hlen.symm)
  | some h' =>
    obtain ⟨hc, rfl⟩ := redo?_eq_some.1 hr
    exact redo?_eq_some.2 ⟨hlen ▸ hc, rfl⟩

theorem nameBatch_map (h : History α) (f : α → β) (label : String) :
    (h.nameBatch label).map f = (h.map f).nameBatch label := by
  obtain ⟨snapshots, cursor, limit, batch, hlt⟩ := h
  cases batch with
  | none => rfl
  | some b =>
    refine History.ext ?_ rfl rfl rfl
    cases he : b.entry with
    | none => simp only [nameBatch, map, he, Option.elim_none]
    | some i =>
      simp only [nameBatch, map, he, Option.elim_some]
      refine map_modify ?_ snapshots i
      exact fun _ => rfl

/-- How snapshots are marked: a new one gets `fresh`, and one that is written again gets `again` of
the mark it has. -/
structure Marking (τ : Type) where
  fresh : τ
  again : τ → τ

/-- The history after a step, with the marks of its snapshots. -/
def performMarked (m : Marking τ) (h : History (α × τ)) : Step α → History (α × τ)
  | .push x label => h.push (x, if h.inBatchSnapshot then m.again h.current.2 else m.fresh) label
  | .undo => h.undo?.getD h
  | .redo => h.redo?.getD h
  | .reset x => h.reset (x, m.fresh)
  | .openBatch => h.openBatch
  | .nameBatch label => h.nameBatch label
  | .closeBatch => h.closeBatch

def runMarked (m : Marking τ) (h : History (α × τ)) (steps : List (Step α)) : History (α × τ) :=
  steps.foldl (performMarked m) h

theorem map_getD_undo? (h : History α) (f : α → β) :
    (h.undo?.getD h).map f = (h.map f).undo?.getD (h.map f) := by
  rw [undo?_map, Option.getD_map]

theorem map_getD_redo? (h : History α) (f : α → β) :
    (h.redo?.getD h).map f = (h.map f).redo?.getD (h.map f) := by
  rw [redo?_map, Option.getD_map]

theorem map_fst_performMarked (m : Marking τ) (h : History (α × τ)) (s : Step α) :
    (h.performMarked m s).map Prod.fst = (h.map Prod.fst).perform s := by
  cases s with
  | push x label => exact push_map h Prod.fst _ label
  | undo => exact map_getD_undo? h Prod.fst
  | redo => exact map_getD_redo? h Prod.fst
  | nameBatch label => exact nameBatch_map h Prod.fst label
  | reset | openBatch | closeBatch => rfl

theorem map_fst_runMarked (m : Marking τ) (h : History (α × τ)) (steps : List (Step α)) :
    (h.runMarked m steps).map Prod.fst = (h.map Prod.fst).run steps := by
  induction steps generalizing h with
  | nil => rfl
  | cons s steps ih =>
    rw [run_cons, ← map_fst_performMarked]
    exact ih (h.performMarked m s)

end History

end Criteria
