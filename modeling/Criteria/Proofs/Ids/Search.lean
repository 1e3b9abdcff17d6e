import Criteria.Edit.Claim
import Criteria.Proofs.Ids

namespace Criteria

namespace IdSource

variable {s : IdSource} {found found' : String × IdSource} {taken : List String} {j k n n' : Nat}

/-- Draws ids until one is not taken. Ends with that id and the source that is left, after this
number of draws. -/
inductive Finds (taken : List String) : IdSource → String × IdSource → Nat → Prop where
  | free {s : IdSource} (h : s.next.1 ∉ taken) : Finds taken s s.next 1
  | again {s : IdSource} {found : String × IdSource} {n : Nat} (h : s.next.1 ∈ taken)
    (hrest : Finds taken s.next.2 found n) : Finds taken s found (n + 1)

theorem finds_of_isFirstFree (h : s.IsFirstFree taken k) :
    Finds taken s (s.issued k).next (k + 1) := by
  induction k generalizing s with
  | zero => exact .free (isFirstFree_zero.1 h)
  | succ k ih =>
    obtain ⟨hfirst, hrest⟩ := isFirstFree_succ.1 h
    exact .again hfirst (ih hrest)

theorem Finds.exists_isFirstFree (h : Finds taken s found n) :
    ∃ k, s.IsFirstFree taken k ∧ found = (s.issued k).next ∧ n = k + 1 := by
  induction h with
  | free h => exact ⟨0, isFirstFree_zero.2 h, rfl, rfl⟩
  | again h _ ih =>
    obtain ⟨k, hfirst, hfound, hn⟩ := ih
    exact ⟨k + 1, isFirstFree_succ.2 ⟨h, hfirst⟩, hfound, congrArg (· + 1) hn⟩

theorem Finds.unique (h : Finds taken s found n) (h' : Finds taken s found' n') :
    found = found' ∧ n = n' := by
  induction h generalizing n' with
  | free h =>
    cases h' with
    | free _ => exact ⟨rfl, rfl⟩
    | again hmem _ => exact absurd hmem h
  | again h _ ih =>
    cases h' with
    | free hfree => exact absurd h hfree
    | again _ hrest =>
      obtain ⟨hfound, hn⟩ := ih hrest
      exact ⟨hfound, congrArg (· + 1) hn⟩

theorem exists_draw_eq_idAt (s : IdSource) (h : n < period) : ∃ k, s.draw k = s.idAt n := by
  have hpos : 0 < period := Nat.zero_lt_of_lt h
  have hle : s.count + 1 ≤ period * (s.count + 1) := Nat.le_mul_of_pos_left _ hpos
  refine ⟨n + period * (s.count + 1) - (s.count + 1), ?_⟩
  have hsum : s.count + (n + period * (s.count + 1) - (s.count + 1)) + 1
      = n + period * (s.count + 1) := by omega
  rw [draw_eq, hsum, Nat.add_mul_mod_self_left, Nat.mod_eq_of_lt h]

/-- A search has no end just if all ids that the counter can come to are taken. -/
theorem not_exists_finds_iff : (¬ ∃ found n, Finds taken s found n) ↔
    ∀ k < period, s.idAt k ∈ taken := by
  constructor
  · intro hendless k hk
    obtain ⟨j, hj⟩ := s.exists_draw_eq_idAt hk
    by_contra hfree
    rw [← hj] at hfree
    obtain ⟨i, -, hfirst⟩ := exists_isFirstFree hfree
    exact hendless ⟨_, _, finds_of_isFirstFree hfirst⟩
  · rintro hall ⟨found, n, hfinds⟩
    obtain ⟨k, hfirst, -, -⟩ := hfinds.exists_isFirstFree
    refine hfirst.1 ?_
    rw [draw_eq]
    exact hall _ (Nat.mod_lt _ (Nat.pow_pos Nat.zero_lt_two))

end IdSource

open IdSource (period)

/-- If the counter has room for one more draw than there are different ids taken, then the search
for an id ends in one way only, after at most so many draws. What comes of it is not taken, alone
becomes taken, and leaves the counter advanced by the number of draws. -/
theorem search_for_id_ends (c : Claims)
    (hroom : c.ids.count + (c.taken.toFinset.card + 1) < period) :
    ∃ draws ≤ c.taken.toFinset.card + 1,
      (∀ found n, c.ids.Finds c.taken found n ↔
        found = (c.fresh.1, c.fresh.2.ids) ∧ n = draws) ∧
        c.fresh.1 ∉ c.taken ∧
        (∀ id, id ∈ c.fresh.2.taken ↔ id = c.fresh.1 ∨ id ∈ c.taken) ∧
        c.fresh.2.ids = { c.ids with count := c.ids.count + draws } := by
  have hcard : c.taken.toFinset.card < period := by omega
  obtain ⟨k, hk, hfirst, hfresh⟩ := c.ids.exists_isFirstFree_fresh hcard
  have hfound : (c.fresh.1, c.fresh.2.ids) = (c.ids.issued k).next := hfresh
  have hfinds := IdSource.finds_of_isFirstFree hfirst
  rw [← hfound] at hfinds
  rw [IdSource.next_issued] at hfound
  obtain ⟨hid, hids⟩ := Prod.mk.inj hfound
  refine ⟨k + 1, Nat.succ_le_succ hk, ?_, hid ▸ hfirst.1, fun id => List.mem_cons, ?_⟩
  · intro found n
    constructor
    · exact fun h => h.unique hfinds
    · rintro ⟨rfl, rfl⟩
      exact hfinds
  · rw [hids, IdSource.issued_of_lt (by omega)]

/-- All draws but the last one that there is room for are taken, one of them twice. -/
theorem search_for_id_ends_at_limit :
    let c : Claims := ⟨⟨"a", 18446744073709551612⟩,
      ["a-18446744073709551613", "a-18446744073709551614", "a-18446744073709551613"]⟩
    c.ids.count + (c.taken.toFinset.card + 1) < period ∧
      c.ids.Finds c.taken ("a-18446744073709551615", ⟨"a", 18446744073709551615⟩) 3 := by
  intro c
  have hroom : c.ids.count + (c.taken.toFinset.card + 1) < period := by decide +kernel
  obtain ⟨draws, -, hsearch, -, -, hids⟩ := search_for_id_ends c hroom
  have hfresh : c.fresh.1 = "a-18446744073709551615" := by decide +kernel
  have hsource : c.fresh.2.ids = ⟨"a", 18446744073709551615⟩ := by decide +kernel
  have hcount := congrArg IdSource.count (hsource.symm.trans hids)
  obtain rfl : draws = 3 := by
    simp only [c] at hcount
    omega
  rw [hfresh, hsource] at hsearch
  exact ⟨hroom, (hsearch _ 3).2 ⟨rfl, rfl⟩⟩

end Criteria
