/-!
Undo history: a log of snapshots with a cursor on the current one. Recording drops what could be
redone, and the oldest snapshots once there are more than the limit. In a batch all that is recorded
becomes one snapshot, which the batch knows by its index.
-/

namespace Criteria

/-- A state with the name of the edit that led to it. -/
structure Snapshot (α : Type) where
  state : α
  label : Option String
  deriving DecidableEq

def Snapshot.named {α : Type} (label : String) (s : Snapshot α) : Snapshot α :=
  { s with label := some label }

/-- A batch that is open. -/
structure Batch where
  /-- The name of the batch as a whole. -/
  label : Option String
  /-- The index of the snapshot that the batch writes to, once it has one. -/
  entry : Option Nat
  deriving DecidableEq

@[ext]
structure History (α : Type) where
  /-- The log, the oldest snapshot first. -/
  snapshots : List (Snapshot α)
  /-- The index of the current snapshot. -/
  cursor : Nat
  /-- The number of snapshots kept, or 0 for all. -/
  limit : Nat
  batch : Option Batch
  cursor_lt : cursor < snapshots.length
  deriving DecidableEq

namespace History

variable {α : Type}

/-- The number of snapshots that are kept if nothing else is said. -/
def defaultLimit : Nat := 50

/-- The history of a state that has none. -/
def start (state : α) (limit : Nat) : History α :=
  ⟨[⟨state, none⟩], 0, limit, none, Nat.zero_lt_one⟩

def now (h : History α) : Snapshot α :=
  have := h.cursor_lt
  h.snapshots[h.cursor]

def current (h : History α) : α := h.now.state

def undoLevels (h : History α) : Nat := h.cursor

def redoLevels (h : History α) : Nat := h.snapshots.length - h.cursor - 1

def canUndo (h : History α) : Bool := 0 < h.cursor

def canRedo (h : History α) : Bool := h.cursor + 1 < h.snapshots.length

/-- The number of snapshots. -/
def size (h : History α) : Nat := h.snapshots.length

/-- The name of the edit that undo takes back. -/
def undoLabel (h : History α) : Option String := if h.canUndo then h.now.label else none

/-- The name of the edit that redo makes again. -/
def redoLabel (h : History α) : Option String := h.snapshots[h.cursor + 1]?.bind (·.label)

def isBatching (h : History α) : Bool := h.batch.isSome

/-- Whether the current snapshot is the one of the open batch. -/
def inBatchSnapshot (h : History α) : Bool := h.batch.any fun b => b.entry = some h.cursor

/-- How many snapshots of a log this long are too many. -/
def excess (limit size : Nat) : Nat := if 0 < limit ∧ limit < size then size - limit else 0

/-- Records a state: in place of the snapshot of the open batch, or as a new one. -/
def push (h : History α) (state : α) (label : Option String) : History α :=
  if h.inBatchSnapshot then
    { h with
      snapshots := h.snapshots.set h.cursor { h.now with state }
      cursor_lt := by simpa only [List.length_set] using h.cursor_lt }
  else
    let grown := h.snapshots.take (h.cursor + 1) ++ [⟨state, (h.batch.bind (·.label)).or label⟩]
    let dropped := excess h.limit grown.length
    let cursor := h.cursor + 1 - dropped
    { h with
      snapshots := grown.drop dropped
      cursor
      batch := h.batch.map fun b => { b with entry := some cursor }
      cursor_lt := by
        have := h.cursor_lt
        simp only [cursor, dropped, grown, excess, List.length_drop, List.length_append,
          List.length_take, List.length_singleton]
        split <;> omega }

/-- Steps back. -/
def undo? (h : History α) : Option (History α) :=
  if h.canUndo then
    some { h with cursor := h.cursor - 1, cursor_lt := Nat.sub_lt_of_lt h.cursor_lt }
  else none

/-- Steps forward. -/
def redo? (h : History α) : Option (History α) :=
  if hr : h.canRedo then
    some { h with cursor := h.cursor + 1, cursor_lt := of_decide_eq_true hr }
  else none

/-- Forgets everything but a new state. -/
def reset (h : History α) (state : α) : History α := start state h.limit

/-- Opens a batch, in place of one that is open. -/
def openBatch (h : History α) : History α := { h with batch := some ⟨none, none⟩ }

def closeBatch (h : History α) : History α := { h with batch := none }

/-- Names the open batch, and its snapshot if it has one. -/
def nameBatch (label : String) (h : History α) : History α :=
  match h.batch with
  | none => h
  | some b =>
    { h with
      snapshots := b.entry.elim h.snapshots fun i => h.snapshots.modify i (.named label)
      batch := some { b with label := some label }
      cursor_lt := by
        cases b.entry with
        | none => exact h.cursor_lt
        | some i => simpa only [Option.elim_some, List.length_modify] using h.cursor_lt }

end History

end Criteria
