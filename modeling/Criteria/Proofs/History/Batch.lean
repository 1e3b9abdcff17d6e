import Criteria.Proofs.History.Run

namespace Criteria

namespace History

variable {α β : Type} {h : History α}

/-- A snapshot is marked if it is made in the batch; to write it again does not change that. -/
def ofBatch : Marking Bool := ⟨true, id⟩

def marked (inBatch : Bool) (s : Snapshot α) : Snapshot (α × Bool) := ⟨(s.state, inBatch), s.label⟩

/-- The history with a batch opened in which nothing has been made yet. -/
def openMarked (h : History α) : History (α × Bool) := h.openBatch.map (·, false)

/-- The snapshots that are not made in the batch. -/
def earlier (g : History (α × Bool)) : List (Snapshot α) :=
  (g.snapshots.filter fun s => !s.state.2).map fun s => ⟨s.state.1, s.label⟩

/-- What a step leaves of these snapshots if they are the first of the log. Only a new snapshot
takes any away: those that could be redone, and the oldest that are too many beside it. -/
def survivors (h : History β) (old : List (Snapshot α)) : Step α → List (Snapshot α)
  | .push .. =>
    if h.inBatchSnapshot then old
    else (old.take (h.cursor + 1)).drop (excess h.limit (h.cursor + 2))
  | .undo | .redo | .reset _ | .openBatch | .nameBatch _ | .closeBatch => old

/-- In a batch the log has snapshots from before it, and behind them that of the batch if it has
one, which the batch then knows. -/
structure Collects (old : List (Snapshot α)) (own : Option (Snapshot α)) (g : History (α × Bool)) :
    Prop where
  snapshots : g.snapshots = old.map (marked false) ++ (own.map (marked true)).toList
  batch : ∃ label, g.batch = some ⟨label, own.map fun _ => old.length⟩

theorem collects_openMarked (h : History α) : Collects h.snapshots none h.openMarked where
  snapshots := (List.append_nil _).symm
  batch := ⟨none, rfl⟩

namespace Collects

variable {old : List (Snapshot α)} {own : Option (Snapshot α)} {g : History (α × Bool)}

theorem earlier (hc : Collects old own g) : g.earlier = old := by
  have hold : (old.map (marked false)).filter (fun s => !s.state.2) = old.map (marked false) :=
    List.filter_eq_self.2 fun s hs => by
      obtain ⟨s, -, rfl⟩ := List.mem_map.1 hs
      rfl
  have hown : ((own.map (marked true)).toList).filter (fun s => !s.state.2) = [] := by
    cases own <;> rfl
  rw [History.earlier, hc.snapshots, List.filter_append, hold, hown, List.append_nil, List.map_map]
  exact List.map_id' _

theorem inBatchSnapshot (hc : Collects old own g) :
    g.inBatchSnapshot = true ↔ own.isSome ∧ g.cursor = old.length := by
  obtain ⟨label, hb⟩ := hc.batch
  rw [History.inBatchSnapshot, hb, Option.any_some, decide_eq_true_eq]
  cases own with
  | none =>
    simp only [Option.map_none, reduceCtorEq, Option.isSome_none, Bool.false_eq_true, false_and]
  | some o =>
    simp only [Option.map_some, Option.some.injEq, Option.isSome_some, true_and]
    exact eq_comm

theorem cursor_lt (hc : Collects old own g) (hb : g.inBatchSnapshot = false) :
    g.cursor < old.length := by
  have hlt := g.cursor_lt
  rw [hc.snapshots, List.length_append, List.length_map] at hlt
  cases own with
  | none => exact hlt
  | some o =>
    have hne : g.cursor ≠ old.length := fun he =>
      Bool.false_ne_true (hb.symm.trans (hc.inBatchSnapshot.2 ⟨rfl, he⟩))
    simp only [Option.map_some, Option.toList_some, List.length_singleton] at hlt
    omega

theorem now_of_inBatchSnapshot (hc : Collects old own g) (hb : g.inBatchSnapshot = true) :
    ∃ o, own = some o ∧ g.cursor = old.length ∧ g.now = marked true o := by
  obtain ⟨hown, hcur⟩ := hc.inBatchSnapshot.1 hb
  obtain ⟨o, rfl⟩ := Option.isSome_iff_exists.1 hown
  exact ⟨o, rfl, hcur, (views_of_snapshots hc.snapshots (by rw [List.length_map, hcur])).2.1⟩

theorem push (hc : Collects old own g) (x : α) (label : Option String) :
    ∃ own', Collects (g.survivors old (.push x label)) own'
      (g.performMarked ofBatch (.push x label)) := by
  obtain ⟨name, hbatch⟩ := hc.batch
  rw [performMarked, survivors]
  cases hb : g.inBatchSnapshot with
  | true =>
    obtain ⟨o, rfl, hcur, hnow⟩ := hc.now_of_inBatchSnapshot hb
    have hmark : g.current.2 = true := by rw [current, hnow, marked]
    refine ⟨some { o with state := x }, ?_, name, ?_⟩
    · rw [if_pos rfl, if_pos rfl, snapshots_push_inBatch hb, hmark, hnow, hc.snapshots, hcur,
        List.set_append_right _ _ (Nat.le_of_eq (List.length_map _)), List.length_map, Nat.sub_self]
      rfl
    · rw [batch_push_inBatch hb]
      exact hbatch
  | false =>
    have hlt := hc.cursor_lt hb
    have hlen : (old.take (g.cursor + 1)).length = g.cursor + 1 := by
      rw [List.length_take, Nat.min_eq_left hlt]
    -- All up to the cursor is from before the batch, so what the batch had made goes.
    have htake :
        g.snapshots.take (g.cursor + 1) = (old.take (g.cursor + 1)).map (marked false) := by
      rw [hc.snapshots, List.take_append_of_le_length (by rw [List.length_map]; exact hlt),
        List.map_take]
    refine ⟨some ⟨x, name.or label⟩, ?_, name, ?_⟩
    · rw [if_neg Bool.false_ne_true, if_neg Bool.false_ne_true, snapshots_push hb, htake, hbatch,
        List.map_drop]
      rfl
    · rw [if_neg Bool.false_ne_true, if_neg Bool.false_ne_true, batch_push hb, cursor_push hb,
        hbatch, List.length_drop, hlen]
      rfl

theorem nameBatch (hc : Collects old own g) (label : String) :
    ∃ own', Collects old own' (g.nameBatch label) := by
  obtain ⟨name, hbatch⟩ := hc.batch
  refine ⟨own.map (.named label), ?_, some label, ?_⟩
  · simp only [History.nameBatch, hbatch]
    cases own with
    | none => exact hc.snapshots
    | some o =>
      have hlen : (old.map (marked false)).length = old.length := List.length_map _
      simp only [Option.map_some, Option.elim_some, hc.snapshots, Option.toList_some]
      rw [List.modify_eq_take_drop, ← hlen, List.take_left, List.drop_left]
      rfl
  · simp only [History.nameBatch, hbatch]
    cases own <;> rfl

/-- A step of a batch changes nothing of the snapshots from before it that it leaves. -/
theorem performMarked (hc : Collects old own g) {s : Step α} (hs : s.isWithinBatch = true) :
    ∃ own', Collects (g.survivors old s) own' (g.performMarked ofBatch s) := by
  cases s with
  | push x label => exact hc.push x label
  | undo =>
    refine ⟨own, ?_⟩
    obtain ⟨_, _, he⟩ := g.getD_undo?
    rw [History.performMarked, he]
    exact ⟨hc.snapshots, hc.batch⟩
  | redo =>
    refine ⟨own, ?_⟩
    obtain ⟨_, _, he⟩ := g.getD_redo?
    rw [History.performMarked, he]
    exact ⟨hc.snapshots, hc.batch⟩
  | nameBatch label => exact hc.nameBatch label
  | reset | openBatch | closeBatch => cases hs

end Collects

theorem survivors_isInfix (h : History β) (old : List (Snapshot α)) (s : Step α) :
    h.survivors old s <:+: old := by
  cases s with
  | push x label =>
    rw [survivors]
    split
    · exact List.infix_rfl
    · exact (List.drop_suffix _ _).isInfix.trans (List.take_prefix _ _).isInfix
  | undo | redo | reset | openBatch | nameBatch | closeBatch => exact List.infix_rfl

theorem collects_runMarked {old : List (Snapshot α)} {own : Option (Snapshot α)}
    {g : History (α × Bool)} (hc : Collects old own g) {steps : List (Step α)}
    (hs : ∀ s ∈ steps, s.isWithinBatch = true) :
    ∃ old' own', old' <:+: old ∧ Collects old' own' (g.runMarked ofBatch steps) := by
  induction steps generalizing g old own with
  | nil => exact ⟨old, own, List.infix_rfl, hc⟩
  | cons s steps ih =>
    obtain ⟨own', hc'⟩ := hc.performMarked (hs s List.mem_cons_self)
    obtain ⟨old'', own'', hsub, hc''⟩ := ih hc' fun u hu => hs u (List.mem_cons_of_mem _ hu)
    exact ⟨old'', own'', hsub.trans (g.survivors_isInfix old s), hc''⟩

/-- A history at its last snapshot. -/
def atEnd (before : List (Snapshot α)) (s : Snapshot α) (limit : Nat) (batch : Option Batch) :
    History α where
  snapshots := before ++ [s]
  cursor := before.length
  limit
  batch
  cursor_lt := by
    rw [List.length_append, List.length_singleton]
    exact Nat.lt_succ_self _

/-- The snapshots that stay in front of a new one. -/
def inFront (h : History α) : List (Snapshot α) :=
  (h.snapshots.take (h.cursor + 1)).drop (excess h.limit (h.cursor + 2))

variable {before : List (Snapshot α)} {s : Snapshot α} {limit : Nat} {name : Option String}

theorem push_eq_atEnd (hb : h.inBatchSnapshot = false) (x : α) (label : Option String) :
    h.push x label = atEnd h.inFront ⟨x, (h.batch.bind (·.label)).or label⟩ h.limit
      (h.batch.map fun b => { b with entry := some h.inFront.length }) := by
  have hc : (h.push x label).cursor = h.inFront.length := by
    rw [cursor_push hb, inFront, List.length_drop, List.length_take,
      Nat.min_eq_left (Nat.succ_le_of_lt h.cursor_lt)]
  refine History.ext (snapshots_push hb x label) hc (h.limit_push x label) ?_
  rw [batch_push hb, hc]
  rfl

theorem push_atEnd (x : α) (label : Option String) :
    (atEnd before s limit (some ⟨name, some before.length⟩)).push x label
      = atEnd before { s with state := x } limit (some ⟨name, some before.length⟩) := by
  have hb : (atEnd before s limit (some ⟨name, some before.length⟩)).inBatchSnapshot = true :=
    decide_eq_true rfl
  have hnow : (atEnd before s limit (some ⟨name, some before.length⟩)).now = s :=
    (views_of_snapshots rfl rfl).2.1
  refine History.ext ?_ (cursor_push_inBatch hb x label) (limit_push _ x label)
    (batch_push_inBatch hb x label)
  rw [snapshots_push_inBatch hb, hnow]
  change (before ++ [s]).set before.length _ = _
  rw [List.set_append_right _ _ (Nat.le_refl _), Nat.sub_self]
  rfl

theorem nameBatch_atEnd (label : String) :
    (atEnd before s limit (some ⟨name, some before.length⟩)).nameBatch label
      = atEnd before (s.named label) limit (some ⟨some label, some before.length⟩) := by
  refine History.ext ?_ rfl rfl rfl
  change (before ++ [s]).modify before.length _ = _
  rw [List.modify_eq_take_drop, List.take_left, List.drop_left]
  rfl

theorem run_atEnd {steps : List (Step α)} (hs : ∀ u ∈ steps, u.isWriting = true) :
    ((atEnd before s limit (some ⟨name, some before.length⟩)).run steps).closeBatch
      = atEnd before ⟨((steps.filterMap (·.pushed?)).getLast?.map Prod.fst).getD s.state,
          (steps.filterMap (·.named?)).getLast?.or s.label⟩ limit none := by
  induction steps generalizing s name with
  | nil => rfl
  | cons u steps ih =>
    obtain ⟨hhead, hs'⟩ := List.forall_mem_cons.1 hs
    rw [run_cons]
    cases u with
    | push x label =>
      have hpushed : (Step.push x label :: steps).filterMap (·.pushed?)
          = (x, label) :: steps.filterMap (·.pushed?) := rfl
      rw [perform, push_atEnd, ih hs', hpushed, List.getLast?_cons]
      cases (steps.filterMap (·.pushed?)).getLast? <;> rfl
    | nameBatch label =>
      have hnamed : (Step.nameBatch label :: steps).filterMap (·.named?)
          = label :: steps.filterMap (·.named?) := rfl
      rw [perform, nameBatch_atEnd, ih hs', hnamed, List.getLast?_cons, Option.some_or]
      cases (steps.filterMap (·.named?)).getLast? <;> rfl
    | undo | redo | reset | openBatch | closeBatch => cases hhead

/-- A batch that has written nothing leaves what one recording of its last state leaves, under the
last name that it is given, and else under that of the first state. -/
theorem run_unwritten {steps : List (Step α)} (hs : ∀ u ∈ steps, u.isWriting = true)
    {first last : α × Option String}
    (hfirst : (steps.filterMap (·.pushed?)).head? = some first)
    (hlast : (steps.filterMap (·.pushed?)).getLast? = some last)
    (hb : h.batch = some ⟨name, none⟩) :
    (h.run steps).closeBatch
      = h.closeBatch.push last.1 ((steps.filterMap (·.named?)).getLast?.or (name.or first.2)) := by
  induction steps generalizing h name with
  | nil => cases hfirst
  | cons u steps ih =>
    obtain ⟨hhead, hs'⟩ := List.forall_mem_cons.1 hs
    rw [run_cons]
    cases u with
    | push x label =>
      have hpushed : (Step.push x label :: steps).filterMap (·.pushed?)
          = (x, label) :: steps.filterMap (·.pushed?) := rfl
      have hin : h.inBatchSnapshot = false := by
        rw [inBatchSnapshot, hb]
        rfl
      rw [hpushed] at hfirst hlast
      cases hfirst
      rw [List.getLast?_cons] at hlast
      cases hlast
      rw [perform, push_eq_atEnd hin, hb, Option.map_some, run_atEnd hs',
        push_eq_atEnd (inBatchSnapshot_of_batch rfl)]
      cases (steps.filterMap (·.pushed?)).getLast? <;> rfl
    | nameBatch label =>
      have hnamed : (Step.nameBatch label :: steps).filterMap (·.named?)
          = label :: steps.filterMap (·.named?) := rfl
      have hname : h.nameBatch label = { h with batch := some ⟨some label, none⟩ } := by
        simp only [nameBatch, hb, Option.elim_none]
      rw [perform, hname, ih hs' hfirst hlast rfl, hnamed, List.getLast?_cons, Option.some_or]
      cases (steps.filterMap (·.named?)).getLast? <;> rfl
    | undo | redo | reset | openBatch | closeBatch => cases hhead

end History

/-- Whatever is recorded, undone, redone and named in a batch, what is left of the snapshots from
before it is as it was, the only ones to go are those that a new snapshot takes from behind the
cursor and from the front of a full log, and it is a snapshot made in the batch that the batch
writes again. Without undo and redo it leaves what one recording of its last state leaves. -/
theorem batch_collapses :
    (∀ {α : Type} (h : History α) (steps : List (History.Step α)),
      (∀ s ∈ steps, s.isWithinBatch = true) →
      let g := h.openMarked.runMarked History.ofBatch steps
      g.map Prod.fst = h.openBatch.run steps ∧
        h.openMarked.earlier = h.snapshots ∧ g.earlier <:+: h.snapshots ∧
        (g.inBatchSnapshot = true → g.current.2 = true) ∧
        ∀ s, s.isWithinBatch = true →
          (g.performMarked History.ofBatch s).earlier = g.survivors g.earlier s) ∧
    ∀ {α : Type} (h : History α) (steps : List (History.Step α)) (first last : α × Option String),
      (∀ s ∈ steps, s.isWithinBatch = true) → .undo ∉ steps → .redo ∉ steps →
      (steps.filterMap (·.pushed?)).head? = some first →
      (steps.filterMap (·.pushed?)).getLast? = some last →
      (h.openBatch.run steps).closeBatch
        = h.closeBatch.push last.1 ((steps.filterMap (·.named?)).getLast?.or first.2) := by
  refine ⟨fun h steps hs => ?_, fun h steps first last hs hu hr hfirst hlast => ?_⟩
  · intro g
    obtain ⟨old, own, hsub, hc⟩ := History.collects_runMarked h.collects_openMarked hs
    have hmap : h.openMarked.map Prod.fst = h.openBatch := by
      refine History.ext ?_ rfl rfl rfl
      exact (List.map_map ..).trans (List.map_id' _)
    have hearlier : g.earlier = old := hc.earlier
    refine ⟨?_, h.collects_openMarked.earlier, hearlier ▸ hsub, fun hb => ?_, fun s hs => ?_⟩
    · rw [History.map_fst_runMarked, hmap]
    · obtain ⟨o, -, -, hnow⟩ := hc.now_of_inBatchSnapshot hb
      rw [History.current, hnow, History.marked]
    · obtain ⟨own', hc'⟩ := hc.performMarked hs
      rw [hc'.earlier, hearlier]
  · have hopen : h.openBatch.batch = some ⟨none, none⟩ := rfl
    have hwriting := History.Step.isWriting_of_isWithinBatch hs hu hr
    exact History.run_unwritten hwriting hfirst hlast hopen

/-- A full log in which a batch is undone past its own snapshot and goes on from there, and one in
which it is not. -/
theorem batch_collapses_at_limit :
    let h := ((History.start "a" 3).push "b" (some "B")).push "c" none
    let wandering : List (History.Step String) :=
      [.push "d" (some "D"), .undo, .undo, .nameBatch "N", .push "e" none, .redo, .push "f" none]
    let straight : List (History.Step String) :=
      [.push "d" (some "D"), .nameBatch "N", .push "e" none]
    let g := h.openMarked.runMarked History.ofBatch wandering
    g.earlier <:+: h.snapshots ∧ g.earlier = [⟨"b", some "B"⟩] ∧ g.current = ("f", true) ∧
      (h.openBatch.run straight).closeBatch = h.push "e" (some "N") ∧
      (h.openBatch.run [.push "d" (some "D"), .push "e" none]).closeBatch
        = h.push "e" (some "D") := by
  intro h wandering straight g
  obtain ⟨-, -, hsub, -, -⟩ := batch_collapses.1 h wandering (by decide)
  refine ⟨hsub, by decide, by decide, ?_, ?_⟩
  · exact batch_collapses.2 h straight ("d", some "D") ("e", none) (by decide) (by decide)
      (by decide) rfl rfl
  · exact batch_collapses.2 h _ ("d", some "D") ("e", none) (by decide) (by decide) (by decide)
      rfl rfl

end Criteria
