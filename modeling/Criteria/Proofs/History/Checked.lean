import Criteria.Proofs.History.Run
import Mathlib.Data.Nat.PSub

namespace Criteria

structure Log (α : Type) where
  snapshots : List (Snapshot α)
  cursor : Nat
  limit : Nat
  batch : Option Batch

namespace Log

variable {α : Type}

/-- The snapshot under the cursor. -/
def now? (l : Log α) : Option (Snapshot α) := l.snapshots[l.cursor]?

def current? (l : Log α) : Option α := l.now?.map (·.state)

def redoLevels? (l : Log α) : Option Nat := do
  let after ← l.snapshots.length.psub l.cursor
  after.psub 1

def undoLabel? (l : Log α) : Option (Option String) :=
  if 0 < l.cursor then l.now?.map (·.label) else some none

/-- How many snapshots of a log this long are too many. -/
def excess? (limit size : Nat) : Option Nat :=
  if 0 < limit ∧ limit < size then size.psub limit else some 0

/-- Removes this many snapshots in front. -/
def drain? (count : Nat) (snapshots : List (Snapshot α)) : Option (List (Snapshot α)) :=
  if count ≤ snapshots.length then some (snapshots.drop count) else none

def push? (l : Log α) (x : α) (label : Option String) : Option (Log α) :=
  if l.batch.any fun b => b.entry = some l.cursor then do
    let s ← l.now?
    return { l with snapshots := l.snapshots.set l.cursor ⟨x, s.label⟩ }
  else do
    let grown := l.snapshots.take (l.cursor + 1) ++ [⟨x, (l.batch.bind (·.label)).or label⟩]
    let excess ← excess? l.limit grown.length
    let snapshots ← drain? excess grown
    let cursor ← (l.cursor + 1).psub excess
    return { l with
      snapshots, cursor
      batch := l.batch.map fun b => { b with entry := some cursor } }

/-- Steps back, if there is anything to go back to. -/
def undo? (l : Log α) : Option (Log α) :=
  if 0 < l.cursor then do
    let cursor ← l.cursor.psub 1
    let l := { l with cursor }
    let _ ← l.now?
    return l
  else some l

/-- Steps forward, if there is anything to go forward to. -/
def redo? (l : Log α) : Option (Log α) :=
  if l.cursor + 1 < l.snapshots.length then do
    let l := { l with cursor := l.cursor + 1 }
    let _ ← l.now?
    return l
  else some l

def nameBatch (label : String) (l : Log α) : Log α :=
  match l.batch with
  | none => l
  | some b =>
    { l with
      snapshots := b.entry.elim l.snapshots fun i => l.snapshots.modify i (.named label)
      batch := some { b with label := some label } }

def perform? (l : Log α) : History.Step α → Option (Log α)
  | .push x label => l.push? x label
  | .undo => l.undo?
  | .redo => l.redo?
  | .reset x => some ⟨[⟨x, none⟩], 0, l.limit, none⟩
  | .openBatch => some { l with batch := some ⟨none, none⟩ }
  | .nameBatch label => some (l.nameBatch label)
  | .closeBatch => some { l with batch := none }

def run? (l : Log α) (steps : List (History.Step α)) : Option (Log α) := steps.foldlM perform? l

end Log

namespace History

variable {α : Type}

def log (h : History α) : Log α := ⟨h.snapshots, h.cursor, h.limit, h.batch⟩

theorem now?_log (h : History α) : h.log.now? = some h.now :=
  List.getElem?_eq_getElem h.cursor_lt

theorem current?_log (h : History α) : h.log.current? = some h.current := by
  rw [Log.current?, now?_log]
  rfl

theorem redoLevels?_log (h : History α) : h.log.redoLevels? = some h.redoLevels := by
  have := h.cursor_lt
  have hafter : h.snapshots.length.psub h.cursor = some (h.snapshots.length - h.cursor) :=
    Nat.psub_eq_some.2 (by omega)
  rw [Log.redoLevels?, log, hafter]
  exact Nat.psub_eq_some.2 (by rw [redoLevels]; omega)

theorem undoLabel?_log (h : History α) : h.log.undoLabel? = some h.undoLabel := by
  rw [Log.undoLabel?, now?_log, undoLabel, canUndo, log]
  by_cases hc : 0 < h.cursor
  · rw [if_pos hc, if_pos (decide_eq_true hc)]
    rfl
  · rw [if_neg hc, decide_eq_false hc]
    rfl

theorem excess?_eq (limit size : Nat) : Log.excess? limit size = some (excess limit size) := by
  rw [Log.excess?, excess]
  split
  · exact Nat.psub_eq_some.2 (by omega)
  · rfl

theorem push?_log (h : History α) (x : α) (label : Option String) :
    h.log.push? x label = some (h.push x label).log := by
  cases hb : h.inBatchSnapshot with
  | true =>
    rw [Log.push?, now?_log, push, if_pos hb]
    exact if_pos hb
  | false =>
    have hin : ¬ (h.log.batch.any fun b => b.entry = some h.log.cursor) = true :=
      Bool.not_eq_true _ ▸ hb
    have hlen : (h.snapshots.take (h.cursor + 1)
        ++ [(⟨x, (h.batch.bind (·.label)).or label⟩ : Snapshot α)]).length = h.cursor + 2 := by
      have := h.cursor_lt
      simp only [List.length_append, List.length_take, List.length_singleton]
      omega
    have hle : excess h.limit (h.cursor + 2) ≤ h.cursor + 1 := excess_le h.limit (h.cursor + 1)
    have hsub : (h.cursor + 1).psub (excess h.limit (h.cursor + 2))
        = some (h.cursor + 1 - excess h.limit (h.cursor + 2)) :=
      Nat.psub_eq_some.2 (by omega)
    rw [Log.push?, if_neg hin, push, if_neg (Bool.not_eq_true _ ▸ hb)]
    simp only [log, hlen, excess?_eq, Log.drain?, hsub, if_pos (Nat.le_succ_of_le hle),
      Option.bind_eq_bind, Option.bind_some, pure]

theorem undo?_log (h : History α) : h.log.undo? = some (h.undo?.getD h).log := by
  have hlt := h.cursor_lt
  rw [Log.undo?]
  split
  · next hc =>
    have hsub : h.cursor.psub 1 = some (h.cursor - 1) := Nat.psub_eq_some.2 (Nat.sub_add_cancel hc)
    have hlt' : h.cursor - 1 < h.snapshots.length := Nat.sub_lt_of_lt hlt
    have hnow : Log.now? ⟨h.snapshots, h.cursor - 1, h.limit, h.batch⟩
        = some h.snapshots[h.cursor - 1] := List.getElem?_eq_getElem hlt'
    rw [undo?_eq_some.2 ⟨hc, rfl⟩]
    simp only [log, hsub, hnow, Option.bind_eq_bind, Option.bind_some, pure, Option.getD_some]
  · next hc =>
    rw [undo?_eq_none.2 (Nat.eq_zero_of_not_pos hc)]
    rfl

theorem redo?_log (h : History α) : h.log.redo? = some (h.redo?.getD h).log := by
  have hlt := h.cursor_lt
  rw [Log.redo?]
  split
  · next hc =>
    have hlt' : h.cursor + 1 < h.snapshots.length := hc
    have hnow : Log.now? ⟨h.snapshots, h.cursor + 1, h.limit, h.batch⟩
        = some h.snapshots[h.cursor + 1] := List.getElem?_eq_getElem hlt'
    rw [redo?_eq_some.2 ⟨hc, rfl⟩]
    simp only [log, hnow, Option.bind_eq_bind, Option.bind_some, pure, Option.getD_some]
  · next hc =>
    have : ¬ h.cursor + 1 < h.snapshots.length := hc
    rw [redo?_eq_none.2 (by omega)]
    rfl

theorem nameBatch_log (h : History α) (label : String) :
    h.log.nameBatch label = (h.nameBatch label).log := by
  obtain ⟨snapshots, cursor, limit, batch, hlt⟩ := h
  cases batch <;> rfl

/-- No step of a history takes an index or a difference out of range. -/
theorem perform?_log (h : History α) (s : Step α) : h.log.perform? s = some (h.perform s).log := by
  cases s with
  | push x label => exact h.push?_log x label
  | undo => exact h.undo?_log
  | redo => exact h.redo?_log
  | nameBatch label => exact congrArg some (h.nameBatch_log label)
  | reset | openBatch | closeBatch => rfl

theorem run?_log (h : History α) (steps : List (Step α)) :
    h.log.run? steps = some (h.run steps).log := by
  induction steps generalizing h with
  | nil => rfl
  | cons s steps ih =>
    rw [Log.run?, List.foldlM_cons, perform?_log]
    exact ih (h.perform s)

end History

end Criteria
