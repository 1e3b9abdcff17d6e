import Criteria.Proofs.History.Timeline
import Mathlib.Data.List.Chain

namespace Criteria.History

variable {α : Type} {g g' : History (α × Bool)} {x : α} {label : Option String}

/-- A snapshot is marked once its batch has written it again. -/
def rewriting : Marking Bool := ⟨false, fun _ => true⟩

/-- The later one of two neighbours is in another state, unless it has been written again. -/
def Differ (s s' : Snapshot (α × Bool)) : Prop := s'.state.2 = false → s.state.1 ≠ s'.state.1

structure Stepwise (g : History (α × Bool)) : Prop where
  differ : g.snapshots.IsChain Differ
  /-- What the open batch writes again has nothing behind it. -/
  last : ∀ label i, g.batch = some ⟨label, some i⟩ → i + 1 = g.snapshots.length

theorem stepwise_start (x : α × Bool) (limit : Nat) : (start x limit).Stepwise where
  differ := .singleton _
  last _ _ hb := nomatch hb

namespace Stepwise

theorem congr (hg : g.Stepwise) (hs : g'.snapshots = g.snapshots) (hb : g'.batch = g.batch) :
    g'.Stepwise where
  differ := hs ▸ hg.differ
  last := by
    rw [hs, hb]
    exact hg.last

theorem push_inBatch (hg : g.Stepwise) (hb : g.inBatchSnapshot = true) (x : α)
    (label : Option String) : (g.push (x, true) label).Stepwise := by
  obtain ⟨hp, hn, hf⟩ := views_push_inBatch hb (x, true) label
  obtain ⟨name, hbatch⟩ := inBatchSnapshot_eq_true.1 hb
  have hfuture : g.future = [] :=
    List.drop_of_length_le (Nat.le_of_eq (hg.last name g.cursor hbatch).symm)
  constructor
  · have hdiffer := hg.differ
    rw [snapshots_eq] at hdiffer
    rw [snapshots_eq, hp, hn, hf, hfuture]
    refine (List.isChain_append.1 hdiffer).1.append (.singleton _) fun s _ s' hs' => ?_
    cases hs'
    exact fun hfresh => Bool.noConfusion hfresh
  · intro name' i hbatch'
    rw [batch_push_inBatch hb] at hbatch'
    rw [snapshots_push_inBatch hb, List.length_set]
    exact hg.last name' i hbatch'

theorem push (hg : g.Stepwise) (hb : g.inBatchSnapshot = false) (hx : x ≠ g.current.1)
    (label : Option String) : (g.push (x, false) label).Stepwise := by
  constructor
  · rw [snapshots_push hb]
    refine ((hg.differ.take _).drop _).append (.singleton _) fun s hs s' hs' => ?_
    -- What stands before the new snapshot, if anything does, is the one it follows.
    rw [take_succ_cursor, List.getLast?_drop, List.getLast?_concat] at hs
    split at hs
    · cases hs
    · cases hs
      cases hs'
      exact fun _ => hx.symm
  · intro name i hbatch
    have hlen := (g.push (x, false) label).length_snapshots
    rw [(views_push hb (x, false) label).2.2, length_past] at hlen
    rw [batch_push hb] at hbatch
    obtain ⟨b, -, he⟩ := Option.map_eq_some_iff.1 hbatch
    cases he
    exact hlen.symm

theorem nameBatch (hg : g.Stepwise) (label : String) : (g.nameBatch label).Stepwise := by
  have hstates := g.map_state_nameBatch label
  have hlen : (g.nameBatch label).snapshots.length = g.snapshots.length := by
    simpa only [List.length_map] using congrArg List.length hstates
  constructor
  · have hdiffer := (List.isChain_map (R := fun a b : α × Bool => b.2 = false → a.1 ≠ b.1)
      (fun s : Snapshot (α × Bool) => s.state)).2 hg.differ
    rw [← hstates] at hdiffer
    exact (List.isChain_map fun s : Snapshot (α × Bool) => s.state).1 hdiffer
  · intro name i hbatch
    rw [batch_nameBatch] at hbatch
    obtain ⟨⟨name', entry⟩, hb, he⟩ := Option.map_eq_some_iff.1 hbatch
    cases he
    rw [hlen]
    exact hg.last name' i hb

theorem performMarked (hg : g.Stepwise) {s : Step α}
    (hs : ∀ x label, s = .push x label → x ≠ g.current.1) :
    (g.performMarked rewriting s).Stepwise := by
  cases s with
  | push x label =>
    rw [History.performMarked]
    split
    · next hb => exact hg.push_inBatch hb x label
    · next hb => exact hg.push (Bool.not_eq_true _ ▸ hb) (hs x label rfl) label
  | undo =>
    obtain ⟨_, _, he⟩ := g.getD_undo?
    rw [History.performMarked, he]
    exact hg.congr rfl rfl
  | redo =>
    obtain ⟨_, _, he⟩ := g.getD_redo?
    rw [History.performMarked, he]
    exact hg.congr rfl rfl
  | reset x => exact stepwise_start _ _
  | openBatch => exact ⟨hg.differ, fun _ _ hb => nomatch hb⟩
  | nameBatch label => exact hg.nameBatch label
  | closeBatch => exact ⟨hg.differ, fun _ _ hb => nomatch hb⟩

theorem runMarked (hg : g.Stepwise) {steps : List (Step α)}
    (hs : (g.map Prod.fst).Changing steps) : (g.runMarked rewriting steps).Stepwise := by
  induction steps generalizing g with
  | nil => exact hg
  | cons s steps ih =>
    obtain ⟨hhead, htail⟩ := hs
    rw [← map_fst_performMarked rewriting] at htail
    refine ih (hg.performMarked fun x label he => ?_) htail
    have := hhead x label he
    rwa [current, now_map] at this

theorem redo? (hg : g.Stepwise) (hr : g.redo? = some g') : Differ g.now g'.now := by
  obtain ⟨hc, rfl⟩ := redo?_eq_some.1 hr
  exact List.isChain_iff_getElem.1 hg.differ g.cursor hc

theorem undo? (hg : g.Stepwise) (hu : g.undo? = some g') : Differ g'.now g.now := by
  have hg' : g'.Stepwise := by
    obtain ⟨-, rfl⟩ := undo?_eq_some.1 hu
    exact hg.congr rfl rfl
  exact hg'.redo? (redo?_of_undo? hu).1

end Stepwise

theorem fresh_performMarked (hg : g.All fun x => x.2 = false) (hb : g.batch = none) {s : Step α}
    (hs : s ≠ .openBatch) :
    (g.performMarked rewriting s).All (fun x => x.2 = false) ∧
      (g.performMarked rewriting s).batch = none := by
  cases s with
  | push x label =>
    have hin := inBatchSnapshot_of_batch hb
    rw [performMarked, if_neg (Bool.not_eq_true _ ▸ hin)]
    exact ⟨hg.push rfl label, by rw [batch_push hin, hb, Option.map_none]⟩
  | undo =>
    obtain ⟨_, _, he⟩ := g.getD_undo?
    rw [performMarked, he]
    exact ⟨hg, hb⟩
  | redo =>
    obtain ⟨_, _, he⟩ := g.getD_redo?
    rw [performMarked, he]
    exact ⟨hg, hb⟩
  | reset x => exact ⟨all_start rfl, rfl⟩
  | openBatch => exact absurd rfl hs
  | nameBatch label =>
    rw [performMarked, nameBatch, hb]
    exact ⟨hg, hb⟩
  | closeBatch => exact ⟨hg, rfl⟩

theorem fresh_runMarked (hg : g.All fun x => x.2 = false) (hb : g.batch = none)
    {steps : List (Step α)} (hs : .openBatch ∉ steps) :
    (g.runMarked rewriting steps).All fun x => x.2 = false := by
  induction steps generalizing g with
  | nil => exact hg
  | cons s steps ih =>
    obtain ⟨hg', hb'⟩ := fresh_performMarked hg hb fun he : s = .openBatch =>
      hs (he ▸ List.mem_cons_self)
    exact ih hg' hb' fun hm => hs (List.mem_cons_of_mem _ hm)

/-- If nothing has been written again, all neighbours are in different states. -/
theorem Stepwise.ne (hg : g.Stepwise) (hfresh : g.All fun x => x.2 = false) :
    (g.map Prod.fst).snapshots.IsChain fun s s' => s.state ≠ s'.state := by
  refine (List.isChain_map _).2 (List.isChain_iff_getElem.2 fun i hi => ?_)
  exact List.isChain_iff_getElem.1 hg.differ i hi (hfresh _ (List.getElem_mem hi))

end Criteria.History
