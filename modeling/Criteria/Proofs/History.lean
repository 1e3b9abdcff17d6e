import Criteria.History

namespace Criteria.History

variable {α β γ : Type} {P : α → Prop} {h h' : History α} {s : Snapshot α} {x : α}
  {label : Option String}

/-- What can be undone to, the nearest first. -/
def past (h : History α) : List (Snapshot α) := (h.snapshots.take h.cursor).reverse

/-- What can be redone to, the nearest first. -/
def future (h : History α) : List (Snapshot α) := h.snapshots.drop (h.cursor + 1)

theorem length_past (h : History α) : h.past.length = h.cursor := by
  have := h.cursor_lt
  simp only [past, List.length_reverse, List.length_take]
  omega

theorem take_succ_cursor (h : History α) :
    h.snapshots.take (h.cursor + 1) = h.past.reverse ++ [h.now] := by
  have := h.cursor_lt
  rw [past, List.reverse_reverse, now, List.take_append_getElem]

theorem snapshots_eq (h : History α) : h.snapshots = h.past.reverse ++ h.now :: h.future := by
  rw [List.append_cons, ← take_succ_cursor, future, List.take_append_drop]

theorem length_snapshots (h : History α) :
    h.snapshots.length = h.past.length + h.future.length + 1 := by
  rw [snapshots_eq]
  simp only [List.length_append, List.length_reverse, List.length_cons]
  omega

/-- A log with its cursor behind these snapshots has them in its past, the others in its future. -/
theorem views_of_snapshots {before after : List (Snapshot α)}
    (hs : h.snapshots = before ++ s :: after) (hc : h.cursor = before.length) :
    h.past = before.reverse ∧ h.now = s ∧ h.future = after := by
  refine ⟨?_, ?_, ?_⟩
  · rw [past, hs, hc, List.take_left]
  · simp only [now, hs, hc, List.getElem_append_right (Nat.le_refl _), Nat.sub_self,
      List.getElem_cons_zero]
  · rw [future, hs, hc, ← List.drop_drop, List.drop_left, List.drop_one, List.tail_cons]

theorem mem_snapshots : s ∈ h.snapshots ↔ s ∈ h.past ∨ s = h.now ∨ s ∈ h.future := by
  rw [snapshots_eq]
  simp only [List.mem_append, List.mem_reverse, List.mem_cons]

theorem now_mem_snapshots (h : History α) : h.now ∈ h.snapshots :=
  mem_snapshots.2 (.inr (.inl rfl))

/-- The newest of the snapshots that fit under a limit beside the current one. -/
def kept (limit : Nat) (past : List (Snapshot α)) : List (Snapshot α) :=
  if limit = 0 then past else past.take (limit - 1)

theorem mem_of_mem_kept {limit : Nat} {past : List (Snapshot α)} (hs : s ∈ kept limit past) :
    s ∈ past := by
  rw [kept] at hs
  split at hs
  · exact hs
  · exact List.mem_of_mem_take hs

theorem drop_excess (limit : Nat) (past : List (Snapshot α)) :
    past.reverse.drop (excess limit (past.length + 1)) = (kept limit past).reverse := by
  rw [kept, excess]
  split
  · next hl =>
    rw [if_neg (by omega), List.drop_reverse]
    congr 2
    omega
  · next hl =>
    rw [List.drop_zero]
    split
    · rfl
    · rw [List.take_of_length_le (by omega)]

theorem excess_le (limit size : Nat) : excess limit (size + 1) ≤ size := by
  rw [excess]
  split <;> omega

theorem snapshots_push_inBatch (hb : h.inBatchSnapshot = true) (x : α) (label : Option String) :
    (h.push x label).snapshots = h.snapshots.set h.cursor ⟨x, h.now.label⟩ := by
  rw [push, if_pos hb]

theorem cursor_push_inBatch (hb : h.inBatchSnapshot = true) (x : α) (label : Option String) :
    (h.push x label).cursor = h.cursor := by
  rw [push, if_pos hb]

theorem length_grown (h : History α) (s : Snapshot α) :
    (h.snapshots.take (h.cursor + 1) ++ [s]).length = h.cursor + 2 := by
  rw [take_succ_cursor]
  simp only [List.length_append, List.length_reverse, length_past, List.length_singleton]

theorem snapshots_push (hb : h.inBatchSnapshot = false) (x : α) (label : Option String) :
    (h.push x label).snapshots
      = (h.snapshots.take (h.cursor + 1)).drop (excess h.limit (h.cursor + 2))
        ++ [⟨x, (h.batch.bind (·.label)).or label⟩] := by
  have hle : excess h.limit (h.cursor + 2) ≤ (h.snapshots.take (h.cursor + 1)).length := by
    rw [List.length_take, Nat.min_eq_left (Nat.succ_le_of_lt h.cursor_lt)]
    exact excess_le h.limit (h.cursor + 1)
  rw [push, if_neg (Bool.not_eq_true _ ▸ hb)]
  dsimp only
  rw [length_grown, List.drop_append_of_le_length hle]

theorem cursor_push (hb : h.inBatchSnapshot = false) (x : α) (label : Option String) :
    (h.push x label).cursor = h.cursor + 1 - excess h.limit (h.cursor + 2) := by
  rw [push, if_neg (Bool.not_eq_true _ ▸ hb)]
  dsimp only
  rw [length_grown]

theorem views_push_inBatch (hb : h.inBatchSnapshot = true) (x : α) (label : Option String) :
    (h.push x label).past = h.past ∧ (h.push x label).now = ⟨x, h.now.label⟩ ∧
      (h.push x label).future = h.future := by
  have hs : (h.push x label).snapshots = h.past.reverse ++ ⟨x, h.now.label⟩ :: h.future := by
    rw [snapshots_push_inBatch hb]
    calc h.snapshots.set h.cursor ⟨x, h.now.label⟩
      _ = (h.past.reverse ++ h.now :: h.future).set h.past.reverse.length ⟨x, h.now.label⟩ := by
        rw [← snapshots_eq, List.length_reverse, length_past]
      _ = h.past.reverse ++ ⟨x, h.now.label⟩ :: h.future := by
        rw [List.set_append_right _ _ (Nat.le_refl _), Nat.sub_self, List.set_cons_zero]
  have hc : (h.push x label).cursor = h.past.reverse.length := by
    rw [cursor_push_inBatch hb, List.length_reverse, length_past]
  simpa only [List.reverse_reverse] using views_of_snapshots hs hc

/-- The state becomes a new snapshot, under the name of the batch if it has one. The snapshots that
could be redone are gone, and so are the oldest ones that are too many. -/
theorem views_push (hb : h.inBatchSnapshot = false) (x : α) (label : Option String) :
    (h.push x label).past = kept h.limit (h.now :: h.past) ∧
      (h.push x label).now = ⟨x, (h.batch.bind (·.label)).or label⟩ ∧
      (h.push x label).future = [] := by
  have htake : (h.snapshots.take (h.cursor + 1)).drop (excess h.limit (h.cursor + 2))
      = (kept h.limit (h.now :: h.past)).reverse := by
    rw [take_succ_cursor, ← List.reverse_cons, ← drop_excess, List.length_cons, length_past]
  have hs : (h.push x label).snapshots = (kept h.limit (h.now :: h.past)).reverse
      ++ ⟨x, (h.batch.bind (·.label)).or label⟩ :: [] := by
    rw [snapshots_push hb, htake]
  have hc : (h.push x label).cursor = (kept h.limit (h.now :: h.past)).reverse.length := by
    rw [cursor_push hb, ← htake, List.length_drop, List.length_take,
      Nat.min_eq_left (Nat.succ_le_of_lt h.cursor_lt)]
  simpa only [List.reverse_reverse] using views_of_snapshots hs hc

theorem current_push (h : History α) (x : α) (label : Option String) :
    (h.push x label).current = x := by
  rw [current]
  cases hb : h.inBatchSnapshot with
  | true => rw [(views_push_inBatch hb x label).2.1]
  | false => rw [(views_push hb x label).2.1]

theorem batch_push_inBatch (hb : h.inBatchSnapshot = true) (x : α) (label : Option String) :
    (h.push x label).batch = h.batch := by
  rw [push, if_pos hb]

theorem batch_push (hb : h.inBatchSnapshot = false) (x : α) (label : Option String) :
    (h.push x label).batch
      = h.batch.map fun b => { b with entry := some (h.push x label).cursor } := by
  rw [push, if_neg (Bool.not_eq_true _ ▸ hb)]

theorem limit_push (h : History α) (x : α) (label : Option String) :
    (h.push x label).limit = h.limit := by
  rw [push]
  split <;> rfl

theorem inBatchSnapshot_eq_true :
    h.inBatchSnapshot = true ↔ ∃ label, h.batch = some ⟨label, some h.cursor⟩ := by
  rw [inBatchSnapshot]
  constructor
  · intro hb
    obtain ⟨⟨label, entry⟩, hbatch, hentry⟩ := (Option.any_eq_true _ _).1 hb
    have : entry = some h.cursor := of_decide_eq_true hentry
    exact ⟨label, this ▸ hbatch⟩
  · rintro ⟨label, hbatch⟩
    rw [hbatch]
    exact decide_eq_true rfl

theorem inBatchSnapshot_of_batch (hb : h.batch = none) : h.inBatchSnapshot = false := by
  rw [inBatchSnapshot, hb, Option.any_none]

theorem undo?_eq_some : h.undo? = some h' ↔ 0 < h.cursor ∧ { h with
    cursor := h.cursor - 1, cursor_lt := Nat.sub_lt_of_lt h.cursor_lt } = h' := by
  simp only [undo?, canUndo, decide_eq_true_eq, Option.ite_none_right_eq_some, Option.some.injEq]

theorem undo?_eq_none : h.undo? = none ↔ h.cursor = 0 := by
  simp only [undo?, canUndo, decide_eq_true_eq, ite_eq_right_iff, reduceCtorEq, imp_false,
    Nat.not_lt, Nat.le_zero]

theorem redo?_eq_some : h.redo? = some h' ↔ ∃ hr : h.cursor + 1 < h.snapshots.length,
    { h with cursor := h.cursor + 1, cursor_lt := hr } = h' := by
  rw [redo?]
  split
  · next hr =>
    exact ⟨fun h => ⟨of_decide_eq_true hr, Option.some.inj h⟩, fun ⟨_, h⟩ => congrArg some h⟩
  · next hr => exact ⟨fun h => (nomatch h), fun ⟨h, _⟩ => absurd (decide_eq_true h) hr⟩

theorem redo?_eq_none : h.redo? = none ↔ h.cursor + 1 = h.snapshots.length := by
  have := h.cursor_lt
  rw [redo?]
  split
  · next hr =>
    have : h.cursor + 1 < h.snapshots.length := of_decide_eq_true hr
    exact ⟨fun h => (nomatch h), fun h => by omega⟩
  · next hr =>
    have : ¬ h.cursor + 1 < h.snapshots.length := of_decide_eq_false (Bool.not_eq_true _ ▸ hr)
    exact ⟨fun _ => by omega, fun _ => rfl⟩

theorem snapshots_undo? (hu : h.undo? = some h') : h'.snapshots = h.snapshots := by
  obtain ⟨-, rfl⟩ := undo?_eq_some.1 hu
  rfl

theorem snapshots_redo? (hr : h.redo? = some h') : h'.snapshots = h.snapshots := by
  obtain ⟨-, rfl⟩ := redo?_eq_some.1 hr
  rfl

theorem getD_undo? (h : History α) :
    ∃ i hi, h.undo?.getD h = { h with cursor := i, cursor_lt := hi } := by
  cases hu : h.undo? with
  | none => exact ⟨h.cursor, h.cursor_lt, rfl⟩
  | some h' =>
    obtain ⟨-, rfl⟩ := undo?_eq_some.1 hu
    exact ⟨_, _, rfl⟩

theorem getD_redo? (h : History α) :
    ∃ i hi, h.redo?.getD h = { h with cursor := i, cursor_lt := hi } := by
  cases hr : h.redo? with
  | none => exact ⟨h.cursor, h.cursor_lt, rfl⟩
  | some h' =>
    obtain ⟨_, rfl⟩ := redo?_eq_some.1 hr
    exact ⟨_, _, rfl⟩

theorem batch_nameBatch (h : History α) (label : String) :
    (h.nameBatch label).batch = h.batch.map fun b => { b with label := some label } := by
  rw [nameBatch]
  split
  · next hb => rw [hb, Option.map_none]
  · next hb => rw [hb, Option.map_some]

theorem map_modify {f : β → β} {f' : γ → γ} {g : β → γ} (hg : ∀ x, g (f x) = f' (g x))
    (l : List β) (i : Nat) : (l.modify i f).map g = (l.map g).modify i f' := by
  induction l generalizing i with
  | nil => rw [List.modify_nil, List.map_nil, List.modify_nil]
  | cons x l ih =>
    cases i with
    | zero => simp only [List.modify_zero_cons, List.map_cons, hg]
    | succ i => simp only [List.modify_succ_cons, List.map_cons, ih]

theorem map_state_nameBatch (h : History α) (label : String) :
    (h.nameBatch label).snapshots.map (·.state) = h.snapshots.map (·.state) := by
  rw [nameBatch]
  split
  · rfl
  · next b _ =>
    change (b.entry.elim h.snapshots fun i => h.snapshots.modify i (.named label)).map _ = _
    cases b.entry with
    | none => rfl
    | some i =>
      have hid (s : Snapshot α) : (s.named label).state = id s.state := rfl
      rw [Option.elim_some, map_modify hid, List.modify_id]

/-- What is true of the states of all snapshots. -/
def All (P : α → Prop) (h : History α) : Prop := ∀ s ∈ h.snapshots, P s.state

theorem All.current (hP : h.All P) : P h.current := hP h.now h.now_mem_snapshots

theorem all_start {limit : Nat} (hx : P x) : (start x limit).All P := by
  intro s hs
  rw [List.mem_singleton.1 hs]
  exact hx

theorem All.push (hP : h.All P) (hx : P x) (label : Option String) : (h.push x label).All P := by
  intro s hs
  cases hb : h.inBatchSnapshot with
  | true =>
    obtain ⟨hpast, hnow, hfuture⟩ := views_push_inBatch hb x label
    rw [mem_snapshots, hpast, hnow, hfuture] at hs
    rcases hs with hs | rfl | hs
    · exact hP s (mem_snapshots.2 (.inl hs))
    · exact hx
    · exact hP s (mem_snapshots.2 (.inr (.inr hs)))
  | false =>
    obtain ⟨hpast, hnow, hfuture⟩ := views_push hb x label
    rw [mem_snapshots, hpast, hnow, hfuture] at hs
    rcases hs with hs | rfl | hs
    · rcases List.mem_cons.1 (mem_of_mem_kept hs) with rfl | hs
      · exact hP.current
      · exact hP s (mem_snapshots.2 (.inl hs))
    · exact hx
    · cases hs

theorem All.undo? (hP : h.All P) (hu : h.undo? = some h') : h'.All P := by
  rw [All, snapshots_undo? hu]
  exact hP

theorem All.redo? (hP : h.All P) (hr : h.redo? = some h') : h'.All P := by
  rw [All, snapshots_redo? hr]
  exact hP

end Criteria.History
