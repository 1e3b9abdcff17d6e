import Criteria.Ids
import Criteria.Proofs.Number.Spelled

namespace Criteria

namespace Decimal

variable {ds es : List Nat} {n m : Nat}

theorem foldl_inj (hlen : ds.length = es.length) (hds : ∀ d ∈ ds, d < 10) (hes : ∀ e ∈ es, e < 10)
    (h : ds.foldl (fun n d => 10 * n + d) n = es.foldl (fun n d => 10 * n + d) m) :
    n = m ∧ ds = es := by
  induction ds generalizing n m es with
  | nil =>
    obtain rfl := List.length_eq_zero_iff.1 hlen.symm
    exact ⟨h, rfl⟩
  | cons d ds ih =>
    cases es with
    | nil => cases hlen
    | cons e es =>
      obtain ⟨hd, hds⟩ := List.forall_mem_cons.1 hds
      obtain ⟨he, hes⟩ := List.forall_mem_cons.1 hes
      obtain ⟨hvalue, rfl⟩ := ih (Nat.succ.inj hlen) hds hes h
      obtain ⟨rfl, rfl⟩ : n = m ∧ d = e := by
        dsimp only at hvalue
        omega
      exact ⟨rfl, rfl⟩

theorem zeros_digits_lt (zeros n : Nat) : ∀ d ∈ List.replicate zeros 0 ++ digits n, d < 10 := by
  intro d hd
  rcases List.mem_append.1 hd with hd | hd
  · rw [List.eq_of_mem_replicate hd]
    decide
  · exact digits_lt n d hd

theorem exists_zeros_digits (hne : ds ≠ []) (hds : ∀ d ∈ ds, d < 10) :
    ∃ zeros, ds = List.replicate zeros 0 ++ digits (ofDigits ds) := by
  have hle : (digits (ofDigits ds)).length ≤ ds.length := by
    rw [length_digits]
    exact Nat.log_lt_of_lt_pow' (List.length_pos_iff.2 hne).ne' (ofDigits_lt hds)
  refine ⟨ds.length - (digits (ofDigits ds)).length, (foldl_inj (n := 0) (m := 0) ?_ hds
    (zeros_digits_lt _ _) ?_).2⟩
  · rw [List.length_append, List.length_replicate, Nat.sub_add_cancel hle]
  · exact (ofDigits_zeros_append _ _ |>.trans (ofDigits_digits _)).symm

end Decimal

namespace Spelling

theorem digitChar_of_digit? {c : Char} {d : Nat} (h : digit? c = some d) :
    Decimal.digitChar d = c := by
  rw [digit?] at h
  split at h
  · next hrange =>
    cases h
    have hzero : '0'.toNat ≤ c.toNat := hrange.1
    rw [Decimal.digitChar, Nat.add_sub_cancel' hzero, Char.ofNat_toNat]
  · cases h

theorem chars_spanDigits (cs : List Char) :
    Decimal.chars (spanDigits cs).1 ++ (spanDigits cs).2 = cs := by
  induction cs with
  | nil => rfl
  | cons c cs ih =>
    rw [spanDigits]
    cases hc : digit? c with
    | none => rfl
    | some d =>
      have hcons : Decimal.digitChar d :: (Decimal.chars (spanDigits cs).1 ++ (spanDigits cs).2)
          = c :: cs := by rw [digitChar_of_digit? hc, ih]
      exact hcons

end Spelling

namespace IdSource

variable {s : IdSource} {id : String} {n : Nat} {cs : List Char}

/-- A number as digits, behind some zeros. -/
def padded (zeros n : Nat) : List Char := List.replicate zeros '0' ++ Decimal.natChars n

theorem spanDigits_padded (zeros n : Nat) :
    Spelling.spanDigits (padded zeros n) = (List.replicate zeros 0 ++ Decimal.digits n, []) := by
  have hspan := Spelling.spanDigits_chars (Decimal.zeros_digits_lt zeros n) Spelling.stopsDigits_nil
  rwa [List.append_nil, Decimal.chars_append, Decimal.chars_replicate] at hspan

theorem padded_ne_plus (zeros n : Nat) (cs : List Char) : padded zeros n ≠ '+' :: cs := by
  intro h
  have hspan := spanDigits_padded zeros n
  have hstop : Spelling.spanDigits ('+' :: cs) = ([], '+' :: cs) := rfl
  rw [h, hstop] at hspan
  cases (Prod.mk.inj hspan).2

/-- A counter without a sign. -/
def unsigned? (cs : List Char) : Option Nat :=
  match Spelling.spanDigits cs with
  | ([], _) | (_, _ :: _) => none
  | (ds, []) => if Decimal.ofDigits ds < period then some (Decimal.ofDigits ds) else none

theorem counter?_plus (cs : List Char) : counter? ('+' :: cs) = unsigned? cs := rfl

theorem counter?_of_ne_plus (h : ∀ rest, cs ≠ '+' :: rest) : counter? cs = unsigned? cs := by
  rw [counter?]
  · rfl
  · exact h

theorem unsigned?_eq_some : unsigned? cs = some n ↔ n < period ∧ ∃ zeros, cs = padded zeros n := by
  constructor
  · intro h
    rw [unsigned?] at h
    split at h
    · cases h
    · cases h
    · next ds hne hspan =>
      split at h
      · next hlt =>
        cases h
        have hlt10 := Spelling.spanDigits_lt cs
        have hchars := Spelling.chars_spanDigits cs
        rw [hspan] at hlt10 hchars
        obtain ⟨zeros, hds⟩ := Decimal.exists_zeros_digits hne hlt10
        refine ⟨hlt, zeros, ?_⟩
        calc cs = Decimal.chars ds := by rw [← hchars, List.append_nil]
          _ = padded zeros (Decimal.ofDigits ds) := by
            conv_lhs => rw [hds]
            rw [Decimal.chars_append, Decimal.chars_replicate]
            rfl
      · cases h
  · rintro ⟨hlt, zeros, rfl⟩
    rw [unsigned?, spanDigits_padded]
    split
    · next h =>
      have hnil := (List.append_eq_nil_iff.1 (Prod.mk.inj h).1).2
      exact absurd hnil (Decimal.digits_ne_nil n)
    · next h => cases (Prod.mk.inj h).2
    · next h =>
      obtain ⟨rfl, -⟩ := Prod.mk.inj h
      rw [Decimal.ofDigits_zeros_append, Decimal.ofDigits_digits, if_pos hlt]

theorem counter?_eq_some : counter? cs = some n ↔
    n < period ∧ ∃ zeros, cs = padded zeros n ∨ cs = '+' :: padded zeros n := by
  by_cases hplus : ∃ rest, cs = '+' :: rest
  · obtain ⟨rest, rfl⟩ := hplus
    rw [counter?_plus, unsigned?_eq_some]
    refine and_congr_right fun _ => exists_congr fun zeros => ?_
    have hne := (padded_ne_plus zeros n rest).symm
    simp only [hne, false_or, List.cons.injEq, true_and]
  · rw [counter?_of_ne_plus fun rest h => hplus ⟨rest, h⟩, unsigned?_eq_some]
    refine and_congr_right fun _ => exists_congr fun zeros => ?_
    have hne : cs ≠ '+' :: padded zeros n := fun h => hplus ⟨_, h⟩
    simp only [hne, or_false]

/-- Whether an id is the seed with a number, in front of which there may be a plus sign and zeros.
-/
def Carries (s : IdSource) (id : String) (n : Nat) : Prop :=
  ∃ zeros, id = s.seed ++ "-" ++ String.ofList (padded zeros n) ∨
    id = s.seed ++ "-" ++ String.ofList ('+' :: padded zeros n)

theorem counterOf?_append (s : IdSource) (cs : List Char) :
    s.counterOf? (s.seed ++ "-" ++ String.ofList cs) = counter? cs := by
  have hchars : (s.seed ++ "-" ++ String.ofList cs).toList = (s.seed.toList ++ ['-']) ++ cs := by
    simp
  have hstart : (s.seed.toList ++ ['-']).isPrefixOf ((s.seed.toList ++ ['-']) ++ cs) = true :=
    List.isPrefixOf_iff_prefix.2 (List.prefix_append _ _)
  simp only [counterOf?, hchars]
  rw [if_pos hstart, List.drop_left]

theorem exists_of_counterOf? (h : s.counterOf? id = some n) :
    ∃ cs, id = s.seed ++ "-" ++ String.ofList cs := by
  simp only [counterOf?] at h
  split at h
  · next hstart =>
    obtain ⟨cs, hcs⟩ := List.isPrefixOf_iff_prefix.1 hstart
    refine ⟨cs, String.toList_injective ?_⟩
    simp [← hcs]
  · cases h

/-- The counter of an id is the number that it carries, unless that is too great. -/
theorem counterOf?_eq_some : s.counterOf? id = some n ↔ n < period ∧ s.Carries id n := by
  constructor
  · intro h
    obtain ⟨cs, rfl⟩ := exists_of_counterOf? h
    rw [counterOf?_append, counter?_eq_some] at h
    obtain ⟨hlt, zeros, rfl | rfl⟩ := h
    · exact ⟨hlt, zeros, .inl rfl⟩
    · exact ⟨hlt, zeros, .inr rfl⟩
  · rintro ⟨hlt, zeros, rfl | rfl⟩
    · exact (counterOf?_append ..).trans (counter?_eq_some.2 ⟨hlt, zeros, .inl rfl⟩)
    · exact (counterOf?_append ..).trans (counter?_eq_some.2 ⟨hlt, zeros, .inr rfl⟩)

theorem carries_idAt (s : IdSource) (n : Nat) : s.Carries (s.idAt n) n := ⟨0, .inl rfl⟩

end IdSource

end Criteria
