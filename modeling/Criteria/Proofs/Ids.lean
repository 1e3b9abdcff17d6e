import Criteria.Proofs.Edit.Issue
import Criteria.Proofs.Number.Spelled
import Mathlib.Data.Finset.Card
import Mathlib.Data.List.Nodup
import Mathlib.Data.Nat.Find
import Mathlib.Data.Nat.ModEq

namespace Criteria

theorem Decimal.natText_inj {n m : Nat} (h : natText n = natText m) : n = m := by
  have hchars : natChars n ++ [] = natChars m ++ [] :=
    congrArg (· ++ []) (String.ofList_injective h)
  have hspan := Spelling.spanDigits_natChars n Spelling.stopsDigits_nil
  rw [hchars, Spelling.spanDigits_natChars m Spelling.stopsDigits_nil] at hspan
  have hdigits : digits m = digits n := congrArg Prod.fst hspan
  calc n = ofDigits (digits n) := (ofDigits_digits n).symm
    _ = ofDigits (digits m) := by rw [hdigits]
    _ = m := ofDigits_digits m

namespace IdSource

variable {s s' : IdSource} {id : String} {taken : List String} {fuel j k : Nat}

/-- The id that is issued after some number of others. -/
def draw (s : IdSource) (k : Nat) : String := (s.issued k).next.1

theorem draw_issued (s : IdSource) (j k : Nat) : (s.issued j).draw k = s.draw (j + k) := by
  rw [draw, draw, issued_add]

theorem draw_eq (s : IdSource) (k : Nat) : s.draw k = s.idAt ((s.count + k + 1) % period) := by
  induction k generalizing s with
  | zero => rfl
  | succ k ih =>
    have hnext : s.draw (k + 1) = s.next.2.draw k := rfl
    have hcount : s.next.2.count = (s.count + 1) % period := rfl
    have hmod : ((s.count + 1) % period + k + 1) % period = (s.count + (k + 1) + 1) % period := by
      rw [Nat.add_assoc, Nat.mod_add_mod, Nat.add_right_comm, Nat.add_assoc s.count]
    rw [hnext, ih, hcount, hmod]
    rfl

theorem idAt_inj {n m : Nat} (h : s.idAt n = s.idAt m) : n = m :=
  Decimal.natText_inj (String.append_right_inj _ |>.1 h)

/-- No id is issued twice within a period. -/
theorem draw_inj (hj : j < period) (hk : k < period) (h : s.draw j = s.draw k) : j = k := by
  rw [draw_eq, draw_eq] at h
  have hmod : s.count + j + 1 ≡ s.count + k + 1 [MOD period] := idAt_inj h
  have hmod : j ≡ k [MOD period] := (hmod.add_right_cancel' 1).add_left_cancel' s.count
  exact hmod.eq_of_lt_of_lt hj hk

theorem nodup_draws (h : fuel ≤ period) : ((List.range fuel).map s.draw).Nodup := by
  apply List.nodup_range.map_on
  intro j hj k hk heq
  exact draw_inj (Nat.lt_of_lt_of_le (List.mem_range.1 hj) h)
    (Nat.lt_of_lt_of_le (List.mem_range.1 hk) h) heq

theorem exists_of_freshWithin (h : freshWithin fuel s taken = some (id, s')) :
    ∃ k < fuel, (s.issued k).next = (id, s') ∧ ∀ j < k, s.draw j ∈ taken := by
  induction fuel generalizing s with
  | zero => cases h
  | succ fuel ih =>
    simp only [freshWithin] at h
    split at h
    · next hmem =>
      obtain ⟨k, hk, hnext, hbefore⟩ := ih h
      refine ⟨k + 1, Nat.succ_lt_succ hk, hnext, ?_⟩
      intro j hj
      cases j with
      | zero => exact List.contains_iff_mem.1 hmem
      | succ j => exact hbefore j (Nat.lt_of_succ_lt_succ hj)
    · exact ⟨0, Nat.succ_pos fuel, Option.some.inj h, fun j hj => absurd hj (Nat.not_lt_zero j)⟩

/-- Whether the first draw that is not taken comes after this number of others. -/
def IsFirstFree (s : IdSource) (taken : List String) (k : Nat) : Prop :=
  s.draw k ∉ taken ∧ ∀ j < k, s.draw j ∈ taken

theorem isFirstFree_zero : s.IsFirstFree taken 0 ↔ s.next.1 ∉ taken :=
  and_iff_left fun _ hj => absurd hj (Nat.not_lt_zero _)

theorem isFirstFree_succ :
    s.IsFirstFree taken (k + 1) ↔ s.next.1 ∈ taken ∧ s.next.2.IsFirstFree taken k := by
  constructor
  · rintro ⟨hfree, hbefore⟩
    exact ⟨hbefore 0 (Nat.succ_pos k), hfree, fun j hj => hbefore (j + 1) (Nat.succ_lt_succ hj)⟩
  · rintro ⟨hfirst, hfree, hbefore⟩
    refine ⟨hfree, fun j hj => ?_⟩
    cases j with
    | zero => exact hfirst
    | succ j => exact hbefore j (Nat.lt_of_succ_lt_succ hj)

theorem exists_isFirstFree (h : s.draw k ∉ taken) : ∃ j ≤ k, s.IsFirstFree taken j := by
  classical
  have hfree : ∃ k, s.draw k ∉ taken := ⟨k, h⟩
  exact ⟨Nat.find hfree, Nat.find_min' hfree h, Nat.find_spec hfree,
    fun j hj => not_not.1 (Nat.find_min hfree hj)⟩

theorem exists_draw_not_mem (s : IdSource) (h : taken.toFinset.card < period) :
    ∃ k ≤ taken.toFinset.card, s.draw k ∉ taken := by
  by_contra! hall
  have hmaps : ∀ k ∈ Finset.range (taken.toFinset.card + 1), s.draw k ∈ taken.toFinset := by
    intro k hk
    exact List.mem_toFinset.2 (hall k (Nat.le_of_lt_succ (Finset.mem_range.1 hk)))
  have hinj : Set.InjOn s.draw (Finset.range (taken.toFinset.card + 1)) := by
    intro j hj k hk heq
    rw [Finset.coe_range, Set.mem_Iio] at hj hk
    exact draw_inj (Nat.lt_of_lt_of_le hj h) (Nat.lt_of_lt_of_le hk h) heq
  have hle := Finset.card_le_card_of_injOn s.draw hmaps hinj
  rw [Finset.card_range] at hle
  exact Nat.not_succ_le_self _ hle

theorem next_issued (s : IdSource) (k : Nat) :
    (s.issued k).next = (s.draw k, s.issued (k + 1)) := by
  rw [issued_add]
  rfl

theorem freshWithin_of_isFirstFree (h : s.IsFirstFree taken k) (hfuel : k < fuel) :
    freshWithin fuel s taken = some (s.issued k).next := by
  induction fuel generalizing s k with
  | zero => cases hfuel
  | succ fuel ih =>
    simp only [freshWithin, List.contains_iff_mem]
    cases k with
    | zero =>
      rw [if_neg (isFirstFree_zero.1 h)]
      rfl
    | succ k =>
      obtain ⟨hfirst, hrest⟩ := isFirstFree_succ.1 h
      rw [if_pos hfirst]
      exact ih hrest (Nat.lt_of_succ_lt_succ hfuel)

/-- A fresh id is the first draw that is not taken, unless a whole period of ids is taken. -/
theorem exists_isFirstFree_fresh (s : IdSource) (h : taken.toFinset.card < period) :
    ∃ k ≤ taken.toFinset.card, s.IsFirstFree taken k ∧ s.fresh taken = (s.issued k).next := by
  obtain ⟨j, hj, hfree⟩ := s.exists_draw_not_mem h
  obtain ⟨k, hk, hfirst⟩ := exists_isFirstFree hfree
  have hcard := hk.trans hj
  refine ⟨k, hcard, hfirst, ?_⟩
  have hfuel := Nat.lt_succ_of_le (hcard.trans (List.toFinset_card_le taken))
  rw [fresh, freshWithin_of_isFirstFree hfirst hfuel]
  rfl

theorem fresh_eq_append (s : IdSource) (taken : List String) :
    ∃ rest, (s.fresh taken).1 = s.seed ++ "-" ++ rest := by
  rw [fresh]
  cases hfound : s.freshWithin (taken.length + 1) taken with
  | none => exact ⟨_, rfl⟩
  | some x =>
    obtain ⟨id, s'⟩ := x
    obtain ⟨k, -, hnext, -⟩ := exists_of_freshWithin hfound
    have hdraw : s.draw k = id := congrArg Prod.fst hnext
    rw [draw_eq] at hdraw
    exact ⟨_, hdraw.symm⟩

theorem fresh_ne_empty (s : IdSource) (taken : List String) : (s.fresh taken).1 ≠ "" := by
  obtain ⟨rest, hrest⟩ := s.fresh_eq_append taken
  intro hempty
  have hlength := congrArg String.length (hrest.symm.trans hempty)
  simp at hlength

end IdSource

end Criteria
