import Criteria.Proofs.History.Run

namespace Criteria

structure Timeline (α : Type) where
  /-- What can be undone to, the nearest first. -/
  past : List (Snapshot α)
  now : Snapshot α
  /-- What can be redone to, the nearest first. -/
  future : List (Snapshot α)
  /-- The number of snapshots kept, or 0 for all. -/
  limit : Nat

namespace Timeline

variable {α : Type}

def start (x : α) (limit : Nat) : Timeline α := ⟨[], ⟨x, none⟩, [], limit⟩

/-- Records a state. Nothing is left to go forward to, and of the past only what fits under the
limit beside the new snapshot. -/
def push (t : Timeline α) (x : α) (label : Option String) : Timeline α :=
  { t with
    past := if t.limit = 0 then t.now :: t.past else (t.now :: t.past).take (t.limit - 1)
    now := ⟨x, label⟩
    future := [] }

def undo? (t : Timeline α) : Option (Timeline α) :=
  match t.past with
  | [] => none
  | s :: past => some { t with past, now := s, future := t.now :: t.future }

def redo? (t : Timeline α) : Option (Timeline α) :=
  match t.future with
  | [] => none
  | s :: future => some { t with past := t.now :: t.past, now := s, future }

theorem undo?_of_past_eq_nil {t : Timeline α} (hp : t.past = []) : t.undo? = none := by
  rw [undo?, hp]

theorem undo?_of_past_eq_cons {t : Timeline α} {s : Snapshot α} {past : List (Snapshot α)}
    (hp : t.past = s :: past) :
    t.undo? = some ⟨past, s, t.now :: t.future, t.limit⟩ := by
  rw [undo?, hp]

theorem redo?_of_future_eq_nil {t : Timeline α} (hf : t.future = []) : t.redo? = none := by
  rw [redo?, hf]

theorem redo?_of_future_eq_cons {t : Timeline α} {s : Snapshot α} {future : List (Snapshot α)}
    (hf : t.future = s :: future) :
    t.redo? = some ⟨t.now :: t.past, s, future, t.limit⟩ := by
  rw [redo?, hf]

/-- The name of the edit that undo takes back. -/
def undoLabel (t : Timeline α) : Option String := if t.past.isEmpty then none else t.now.label

/-- The name of the edit that redo makes again. -/
def redoLabel (t : Timeline α) : Option String := t.future.head?.bind (·.label)

/-- The timeline after a step; steps of batches are none of its business. -/
def perform (t : Timeline α) : History.Step α → Timeline α
  | .push x label => t.push x label
  | .undo => t.undo?.getD t
  | .redo => t.redo?.getD t
  | .reset x => start x t.limit
  | .openBatch | .nameBatch _ | .closeBatch => t

def run (t : Timeline α) (steps : List (History.Step α)) : Timeline α := steps.foldl perform t

end Timeline

namespace History

variable {α : Type} {h h' : History α}

def timeline (h : History α) : Timeline α := ⟨h.past, h.now, h.future, h.limit⟩

theorem timeline_start (x : α) (limit : Nat) : (start x limit).timeline = .start x limit := rfl

theorem timeline_push (hb : h.batch = none) (x : α) (label : Option String) :
    (h.push x label).timeline = h.timeline.push x label := by
  obtain ⟨hp, hn, hf⟩ := views_push (inBatchSnapshot_of_batch hb) x label
  rw [timeline, hp, hn, hf, limit_push, hb]
  rfl

theorem timeline_undo? (h : History α) : h.undo?.map timeline = h.timeline.undo? := by
  have hlen := h.length_past
  have hs := h.snapshots_eq
  cases hp : h.past with
  | nil =>
    rw [hp, List.length_nil] at hlen
    rw [undo?_eq_none.2 hlen.symm, Timeline.undo?_of_past_eq_nil hp, Option.map_none]
  | cons s past =>
    rw [hp, List.length_cons] at hlen
    rw [hp, List.reverse_cons, List.append_assoc, List.singleton_append] at hs
    rw [undo?_eq_some.2 ⟨by omega, rfl⟩, Timeline.undo?_of_past_eq_cons hp, Option.map_some]
    have hc : h.cursor - 1 = past.reverse.length := by rw [List.length_reverse, ← hlen]; rfl
    obtain ⟨hp', hn', hf'⟩ := views_of_snapshots
      (h := { h with cursor := h.cursor - 1, cursor_lt := Nat.sub_lt_of_lt h.cursor_lt }) hs hc
    rw [timeline, hp', hn', hf', List.reverse_reverse]
    rfl

theorem timeline_redo? (h : History α) : h.redo?.map timeline = h.timeline.redo? := by
  have hlen := h.length_snapshots
  have hs := h.snapshots_eq
  rw [h.length_past] at hlen
  cases hf : h.future with
  | nil =>
    rw [hf, List.length_nil] at hlen
    rw [redo?_eq_none.2 hlen.symm, Timeline.redo?_of_future_eq_nil hf, Option.map_none]
  | cons s future =>
    rw [hf, List.length_cons] at hlen
    rw [hf, List.append_cons, ← List.reverse_cons] at hs
    have hlt : h.cursor + 1 < h.snapshots.length := by omega
    rw [redo?_eq_some.2 ⟨hlt, rfl⟩, Timeline.redo?_of_future_eq_cons hf, Option.map_some]
    have hc : h.cursor + 1 = (h.now :: h.past).reverse.length := by
      rw [List.length_reverse, List.length_cons, length_past]
    obtain ⟨hp', hn', hf'⟩ := views_of_snapshots
      (h := { h with cursor := h.cursor + 1, cursor_lt := hlt }) hs hc
    rw [timeline, hp', hn', hf', List.reverse_reverse]
    rfl

/-- A history that shows what a timeline shows, and goes where it goes. -/
structure Shows (h : History α) (t : Timeline α) : Prop where
  current : h.current = t.now.state
  undone : h.undo?.map History.current = t.undo?.map (·.now.state)
  redone : h.redo?.map History.current = t.redo?.map (·.now.state)
  undoLevels : h.undoLevels = t.past.length
  redoLevels : h.redoLevels = t.future.length
  size : h.size = t.past.length + 1 + t.future.length
  undoLabel : h.undoLabel = t.undoLabel
  redoLabel : h.redoLabel = t.redoLabel

theorem undoLabel_timeline (h : History α) : h.undoLabel = h.timeline.undoLabel := by
  have hlen := h.length_past
  rw [undoLabel, Timeline.undoLabel, canUndo, timeline]
  cases hp : h.past with
  | nil =>
    rw [hp, List.length_nil] at hlen
    rw [← hlen]
    rfl
  | cons s past =>
    rw [hp, List.length_cons] at hlen
    rw [← hlen]
    rfl

theorem redoLabel_timeline (h : History α) : h.redoLabel = h.timeline.redoLabel := by
  rw [redoLabel, Timeline.redoLabel, timeline, future, List.head?_drop]

theorem shows_timeline (h : History α) : h.Shows h.timeline where
  current := rfl
  undone := by
    rw [← timeline_undo?, Option.map_map]
    rfl
  redone := by
    rw [← timeline_redo?, Option.map_map]
    rfl
  undoLevels := h.length_past.symm
  redoLevels := by
    have := h.length_snapshots
    rw [length_past] at this
    simp only [redoLevels, timeline]
    omega
  size := by
    simp only [size, length_snapshots, timeline]
    omega
  undoLabel := h.undoLabel_timeline
  redoLabel := h.redoLabel_timeline

theorem timeline_perform (hb : h.batch = none) {s : Step α} (hs : s.isPlain = true) :
    (h.perform s).timeline = h.timeline.perform s ∧ (h.perform s).batch = none := by
  cases s with
  | push x label =>
    refine ⟨timeline_push hb x label, ?_⟩
    rw [perform, batch_push (inBatchSnapshot_of_batch hb), hb, Option.map_none]
  | undo =>
    rw [perform, Timeline.perform, ← timeline_undo?, Option.getD_map]
    obtain ⟨_, _, he⟩ := h.getD_undo?
    exact ⟨rfl, he ▸ hb⟩
  | redo =>
    rw [perform, Timeline.perform, ← timeline_redo?, Option.getD_map]
    obtain ⟨_, _, he⟩ := h.getD_redo?
    exact ⟨rfl, he ▸ hb⟩
  | reset x => exact ⟨timeline_start x h.limit, rfl⟩
  | openBatch | nameBatch | closeBatch => cases hs

theorem timeline_run (hb : h.batch = none) {steps : List (Step α)}
    (hs : ∀ s ∈ steps, s.isPlain = true) :
    (h.run steps).timeline = h.timeline.run steps ∧ (h.run steps).batch = none := by
  induction steps generalizing h with
  | nil => exact ⟨rfl, hb⟩
  | cons s steps ih =>
    obtain ⟨ht, hb'⟩ := timeline_perform hb (hs s List.mem_cons_self)
    have := ih hb' fun u hu => hs u (List.mem_cons_of_mem _ hu)
    rw [ht] at this
    exact this

theorem redo?_of_undo? (hu : h.undo? = some h') :
    h'.redo? = some h ∧ h'.redoLabel = h.undoLabel := by
  obtain ⟨hc, rfl⟩ := undo?_eq_some.1 hu
  have hlt := h.cursor_lt
  have hsucc : h.cursor - 1 + 1 = h.cursor := Nat.sub_add_cancel hc
  refine ⟨redo?_eq_some.2 ⟨hsucc.symm ▸ hlt, History.ext rfl hsucc rfl rfl⟩, ?_⟩
  rw [undoLabel, canUndo, if_pos (decide_eq_true hc), redoLabel]
  dsimp only
  rw [hsucc, List.getElem?_eq_getElem hlt]
  rfl

theorem undo?_of_redo? (hr : h.redo? = some h') : h'.undo? = some h := by
  obtain ⟨hc, rfl⟩ := redo?_eq_some.1 hr
  exact undo?_eq_some.2 ⟨Nat.succ_pos _, rfl⟩

end History

end Criteria
