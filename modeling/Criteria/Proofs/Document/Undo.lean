import Criteria.Proofs.Document.Steps
import Criteria.Proofs.History.Checked
import Criteria.Proofs.History.Timeline

namespace Criteria

namespace History

variable {α : Type} {h : History α}

/-- The history gone back to its oldest snapshot. -/
def oldest (h : History α) : History α :=
  { h with cursor := 0, cursor_lt := Nat.zero_lt_of_lt h.cursor_lt }

/-- The history gone forward to its newest snapshot. -/
def newest (h : History α) : History α :=
  { h with
    cursor := h.snapshots.length - 1
    cursor_lt := Nat.sub_one_lt_of_lt h.cursor_lt }

theorem current_oldest {s : Snapshot α} {later : List (Snapshot α)}
    (hs : h.snapshots = s :: later) : h.oldest.current = s.state := by
  simp only [current, now, oldest, hs, List.getElem_cons_zero]

theorem newest_oldest (ht : h.cursor + 1 = h.snapshots.length) : h.oldest.newest = h :=
  History.ext rfl (Nat.eq_sub_of_add_eq ht).symm rfl rfl

theorem snapshots_push_room (hb : h.batch = none) (ht : h.cursor + 1 = h.snapshots.length)
    (hl : h.limit = 0 ∨ h.snapshots.length < h.limit) (x : α) (label : Option String) :
    (h.push x label).snapshots = h.snapshots ++ [⟨x, label⟩] ∧
      (h.push x label).cursor = h.cursor + 1 := by
  have hin := inBatchSnapshot_of_batch hb
  have hexcess : excess h.limit (h.cursor + 2) = 0 := if_neg (by omega)
  constructor
  · rw [snapshots_push hin, hexcess, List.drop_zero, List.take_of_length_le (Nat.le_of_eq ht.symm),
      hb]
    rfl
  · rw [cursor_push hin, hexcess, Nat.sub_zero]

theorem run_pushes (hb : h.batch = none) (ht : h.cursor + 1 = h.snapshots.length)
    {steps : List (Step α)} (hs : ∀ s ∈ steps, s.pushed?.isSome = true)
    (hl : h.limit = 0 ∨ h.snapshots.length + steps.length ≤ h.limit) :
    h.snapshots <+: (h.run steps).snapshots ∧
      (h.run steps).cursor + 1 = (h.run steps).snapshots.length := by
  induction steps generalizing h with
  | nil => exact ⟨List.prefix_rfl, ht⟩
  | cons s steps ih =>
    rw [List.length_cons] at hl
    cases s with
    | push x label =>
      obtain ⟨hsnap, hc⟩ := snapshots_push_room hb ht (by omega) x label
      have hb' : (h.push x label).batch = none := by
        rw [batch_push (inBatchSnapshot_of_batch hb), hb, Option.map_none]
      have ht' : (h.push x label).cursor + 1 = (h.push x label).snapshots.length := by
        rw [hc, hsnap, List.length_append, List.length_singleton, ht]
      obtain ⟨hpre, htip⟩ := ih hb' ht' (fun u hu => hs u (List.mem_cons_of_mem _ hu)) (by
        rw [limit_push, hsnap, List.length_append, List.length_singleton]
        omega)
      refine ⟨List.IsPrefix.trans ?_ hpre, htip⟩
      rw [hsnap]
      exact List.prefix_append _ _
    | undo | redo | reset | openBatch | nameBatch | closeBatch =>
      cases hs _ List.mem_cons_self

end History

namespace Document

variable {d d' : Document}

theorem undoLevels_undo? (h : d.undo? = some d') :
    d'.history.undoLevels < d.history.undoLevels := by
  obtain ⟨hc, he⟩ := History.undo?_eq_some.1 (history_undo? h)
  rw [History.undoLevels, ← he]
  exact Nat.sub_one_lt_of_lt hc

theorem redoLevels_redo? (h : d.redo? = some d') :
    d'.history.redoLevels < d.history.redoLevels := by
  obtain ⟨hc, he⟩ := History.redo?_eq_some.1 (history_redo? h)
  simp only [History.redoLevels, ← he]
  omega

/-- Undoes until there is nothing left to undo. -/
def undoAll (d : Document) : Document :=
  match h : d.undo? with
  | none => d
  | some d' =>
    have := undoLevels_undo? h
    d'.undoAll
termination_by d.history.undoLevels

/-- Redoes until there is nothing left to redo. -/
def redoAll (d : Document) : Document :=
  match h : d.redo? with
  | none => d
  | some d' =>
    have := redoLevels_redo? h
    d'.redoAll
termination_by d.history.redoLevels

theorem history_undoAll (d : Document) : d.undoAll.history = d.history.oldest := by
  fun_induction undoAll d with
  | case1 d h =>
    have hc := History.undo?_eq_none.1 (Option.map_eq_none_iff.1 h)
    exact History.ext rfl hc rfl rfl
  | case2 d d' h _ ih =>
    obtain ⟨-, he⟩ := History.undo?_eq_some.1 (history_undo? h)
    rw [ih, ← he]
    rfl

theorem history_redoAll (d : Document) : d.redoAll.history = d.history.newest := by
  fun_induction redoAll d with
  | case1 d h =>
    have hc := History.redo?_eq_none.1 (Option.map_eq_none_iff.1 h)
    exact History.ext rfl (Nat.eq_sub_of_add_eq hc) rfl rfl
  | case2 d d' h _ ih =>
    obtain ⟨_, he⟩ := History.redo?_eq_some.1 (history_redo? h)
    rw [ih, ← he]
    rfl

/-- Applies edits one after another, whether or not they are rejected. -/
def applyAll (d : Document) (edits : List (Date × Mutation)) : Document :=
  d.run (edits.map fun e => .apply e.1 e.2)

/-- How many of the edits are recorded. -/
def recorded (d : Document) : List (Date × Mutation) → Nat
  | [] => 0
  | (today, m) :: edits =>
    (if d.records today m then 1 else 0) + (d.apply today m).2.recorded edits

theorem steps_edits (d : Document) (edits : List (Date × Mutation)) :
    (∀ s ∈ d.steps (edits.map fun e => .apply e.1 e.2), s.pushed?.isSome = true) ∧
      (d.steps (edits.map fun e => .apply e.1 e.2)).length = d.recorded edits := by
  induction edits generalizing d with
  | nil => exact ⟨fun _ hs => (nomatch hs), rfl⟩
  | cons e edits ih =>
    obtain ⟨hpush, hlen⟩ := ih (d.apply e.1 e.2).2
    have hsteps : d.steps ((e :: edits).map fun e => .apply e.1 e.2) = d.stepsOf (.apply e.1 e.2)
        ++ (d.apply e.1 e.2).2.steps (edits.map fun e => .apply e.1 e.2) := rfl
    rw [hsteps, List.length_append, hlen, recorded, stepsOf]
    cases d.records e.1 e.2 with
    | false => exact ⟨hpush, rfl⟩
    | true =>
      refine ⟨fun s hs => ?_, rfl⟩
      rcases List.mem_cons.1 hs with rfl | hs
      · rfl
      · exact hpush s hs

theorem history_applyAll (hn : d.IsNew) (edits : List (Date × Mutation))
    (hl : d.options.historyLimit = 0 ∨ d.recorded edits < d.options.historyLimit) :
    (∃ later, (d.applyAll edits).history.snapshots = ⟨d.tree, none⟩ :: later) ∧
      (d.applyAll edits).history.cursor + 1 = (d.applyAll edits).history.snapshots.length := by
  obtain ⟨hpush, hlen⟩ := d.steps_edits edits
  rw [applyAll, history_run, hn.history]
  obtain ⟨⟨later, hpre⟩, htip⟩ := History.run_pushes (h := .start d.tree d.options.historyLimit)
    rfl rfl hpush (by
      rw [hlen]
      change d.options.historyLimit = 0 ∨ 1 + d.recorded edits ≤ d.options.historyLimit
      omega)
  exact ⟨⟨later, hpre.symm⟩, htip⟩

/-- Undoing all edits of a new document gives back its tree, and redoing them their result. -/
theorem tree_undoAll_redoAll (hn : d.IsNew) (edits : List (Date × Mutation))
    (hl : d.options.historyLimit = 0 ∨ d.recorded edits < d.options.historyLimit) :
    (d.applyAll edits).undoAll.tree = d.tree ∧
      (d.applyAll edits).undoAll.redoAll.tree = (d.applyAll edits).tree := by
  obtain ⟨⟨later, hs⟩, htip⟩ := history_applyAll hn edits hl
  constructor
  · rw [tree, history_undoAll, History.current_oldest hs]
  · rw [tree, history_redoAll, history_undoAll, History.newest_oldest htip, tree]

end Document

/-- A history outside of batches shows what a timeline shows, with every index and difference in
range, undo and redo take each other back, and undoing all edits of a document that fit under its
limit gives back the tree it began with, redoing them the tree it ended with. -/
theorem history_is_timeline :
    (∀ {α : Type} (x : α) (limit : Nat) (steps : List (History.Step α)),
      (∀ s ∈ steps, s.isPlain = true) →
      let h := (History.start x limit).run steps
      h.Shows ((Timeline.start x limit).run steps) ∧
        (History.start x limit).log.run? steps = some h.log ∧
        h.log.current? = some h.current ∧ h.log.redoLevels? = some h.redoLevels ∧
        h.log.undoLabel? = some h.undoLabel) ∧
    (∀ {α : Type} (h h' : History α),
      (h.undo? = some h' → h'.redo? = some h ∧ h'.redoLabel = h.undoLabel) ∧
      (h.redo? = some h' → h'.undo? = some h)) ∧
    ∀ (d : Document) (edits : List (Date × Mutation)), d.IsNew →
      (d.options.historyLimit = 0 ∨ d.recorded edits < d.options.historyLimit) →
      (d.applyAll edits).undoAll.tree = d.tree ∧
        (d.applyAll edits).undoAll.redoAll.tree = (d.applyAll edits).tree := by
  refine ⟨fun x limit steps hs => ?_, fun h h' => ⟨History.redo?_of_undo?, History.undo?_of_redo?⟩,
    fun d edits hn hl => Document.tree_undoAll_redoAll hn edits hl⟩
  intro h
  have htimeline : h.timeline = (Timeline.start x limit).run steps :=
    (History.timeline_run rfl hs).1
  exact ⟨htimeline ▸ h.shows_timeline, History.run?_log _ steps, h.current?_log, h.redoLevels?_log,
    h.undoLabel?_log⟩

/-- A log that outgrows its limit and is undone and redone, and a document that just has room for
two edits, among which another one is rejected and one changes nothing. -/
theorem history_is_timeline_at_limit :
    let steps : List (History.Step String) :=
      [.push "b" (some "B"), .push "c" none, .push "d" (some "D"), .undo, .undo, .undo, .redo,
        .push "e" none, .reset "f", .redo]
    let h := (History.start "a" 1).push "b" (some "B")
    let k := (History.start "a" 2).push "b" (some "B")
    let t : Tree := ⟨⟨"r", .and, false, none⟩, []⟩
    let day : Date := ⟨2024, 1, 1, by decide, by decide, by decide⟩
    let d := Document.create t ⟨[]⟩ { historyLimit := 3 }
    let edits : List (Date × Mutation) :=
      [(day, .toggleNegation "r"), (day, .toggleNegation "x"), (day, .setCombinator "r" .and),
        (day, .setCombinator "r" .or)]
    ((History.start "a" 3).run steps).Shows ((Timeline.start "a" 3).run steps) ∧
      h.Shows ((Timeline.start "a" 1).push "b" (some "B")) ∧
      k.oldest.redo? = some k ∧
      (d.applyAll edits).undoAll.tree = t ∧
      (d.applyAll edits).undoAll.redoAll.tree = ⟨⟨"r", .or, true, none⟩, []⟩ := by
  intro steps h k t day d edits
  have hl : d.recorded edits < d.options.historyLimit := by decide
  obtain ⟨hundo, hredo⟩ := history_is_timeline.2.2 d edits (.create t ⟨[]⟩ _) (.inr hl)
  have htree : (d.applyAll edits).tree = ⟨⟨"r", .or, true, none⟩, []⟩ := by decide
  refine ⟨(history_is_timeline.1 "a" 3 steps (by decide)).1, ?_, ?_, hundo, hredo.trans htree⟩
  · exact (history_is_timeline.1 "a" 1 [.push "b" (some "B")] (by decide)).1
  · exact ((history_is_timeline.2.1 k k.oldest).1 rfl).1

end Criteria
