import Criteria.Json.Reader
import Criteria.Proofs.Number.Spelled
import Mathlib.Tactic.IntervalCases

namespace Criteria

namespace Json.Scan

open Spelling (IsLiteral StopsDigits)

/-- A numeral cannot go on with this text. -/
def EndsNumeral (cs : List Char) : Prop :=
  ∀ c ∈ cs.head?, Spelling.digit? c = none ∧ c ≠ '.' ∧ c ≠ 'e' ∧ c ≠ 'E'

theorem EndsNumeral.stopsDigits {cs : List Char} (h : EndsNumeral cs) : StopsDigits cs :=
  fun c hc => (h c hc).1

theorem endsNumeral_nil : EndsNumeral [] := fun c hc => by cases hc

theorem numberExponent_unmarked {rest : List Char} (h : EndsNumeral rest) (negative plain : Bool)
    (whole fraction : List Nat) :
    numberExponent negative plain whole fraction rest
      = (.number (Numeral.ofSpelling? plain ⟨negative, whole, fraction, 0⟩), some rest) := by
  cases rest with
  | nil => rfl
  | cons c cs =>
    obtain ⟨-, -, he, hE⟩ := h c rfl
    simp only [numberExponent, he, hE, or_self, if_false]

theorem numberExponent_part {s : Spelling} {marked : Bool} (h : s.IsLiteral marked)
    {rest : List Char} (hrest : EndsNumeral rest) (plain : Bool) :
    numberExponent s.negative plain s.whole s.fraction (s.exponentPart marked ++ rest)
      = (.number (Numeral.ofSpelling? (plain && !marked) s), some rest) := by
  cases marked with
  | false =>
    have hexp : s.exponent = 0 := h.exponent_eq rfl
    have hs : s = ⟨s.negative, s.whole, s.fraction, 0⟩ := by rw [← hexp]
    rw [Bool.not_false, Bool.and_true, hs]
    exact numberExponent_unmarked hrest _ _ _ _
  | true =>
    have hsign := Spelling.spanSign_signed s.exponent rest
    have hspan := Spelling.spanDigits_natChars s.exponent.natAbs hrest.stopsDigits
    have hback := Spelling.signed_ofDigits s.exponent
    obtain ⟨d, ds, hdigits⟩ := List.exists_cons_of_ne_nil (Decimal.digits_ne_nil s.exponent.natAbs)
    rw [hdigits] at hspan hback
    simp only [Spelling.exponentPart, if_true, List.cons_append, numberExponent, true_or,
      exponentDigits, hsign, hspan, hback, Bool.not_true, Bool.and_false]

theorem number_chars {s : Spelling} {marked : Bool} (h : s.IsLiteral marked) {tail : List Char}
    (htail : StopsDigits tail) :
    number s.negative (Decimal.chars s.whole ++ tail) = numberFraction s.negative s.whole tail := by
  rw [number, Spelling.spanDigits_chars h.whole_lt htail]
  split
  · next hnil => exact absurd (Prod.mk.inj hnil).1 h.whole_ne_nil
  · next hzero =>
    have hwhole := (Prod.mk.inj hzero).1
    have hone := h.leading_zero (by rw [hwhole]; rfl)
    rw [hwhole] at hone
    simp at hone
  · next heq =>
    obtain ⟨rfl, rfl⟩ := Prod.mk.inj heq
    rfl

theorem stopsDigits_part {rest : List Char} (hrest : EndsNumeral rest) (s : Spelling)
    (marked : Bool) : StopsDigits (s.exponentPart marked ++ rest) := by
  cases marked with
  | false => exact hrest.stopsDigits
  | true => exact Spelling.stopsDigits_cons (by decide) _

theorem part_ne_point {rest : List Char} (hrest : EndsNumeral rest) (s : Spelling) (marked : Bool)
    (cs : List Char) : s.exponentPart marked ++ rest ≠ '.' :: cs := by
  intro hpoint
  cases marked with
  | false =>
    rw [Spelling.exponentPart, if_neg Bool.false_ne_true, List.nil_append] at hpoint
    exact (hrest '.' (by rw [hpoint]; rfl)).2.1 rfl
  | true => cases hpoint

theorem number_body {s : Spelling} {marked : Bool} (h : s.IsLiteral marked) {rest : List Char}
    (hrest : EndsNumeral rest) :
    number s.negative (s.body marked ++ rest)
      = (.number (Numeral.ofSpelling? (s.fraction.isEmpty && !marked) s), some rest) := by
  have hpart := stopsDigits_part hrest s marked
  by_cases hf : s.fraction = []
  · have hend := numberExponent_part h hrest true
    rw [Spelling.body, if_pos hf, List.nil_append, List.append_assoc, number_chars h hpart]
    rw [hf] at hend ⊢
    rw [numberFraction]
    · exact hend
    · exact part_ne_point hrest s marked
  · have hpoint : StopsDigits
        ('.' :: Decimal.chars s.fraction ++ (s.exponentPart marked ++ rest)) :=
      Spelling.stopsDigits_cons (by decide) _
    have hend := numberExponent_part h hrest false
    have hfalse : s.fraction.isEmpty = false := by simpa using hf
    rw [Spelling.body, if_neg hf, List.append_assoc, List.append_assoc, number_chars h hpoint,
      List.cons_append, numberFraction, Spelling.spanDigits_chars h.fraction_lt hpart, hfalse]
    split
    · next hnil => exact absurd (Prod.mk.inj hnil).1 hf
    · next heq =>
      obtain ⟨rfl, rfl⟩ := Prod.mk.inj heq
      exact hend

theorem value_digitChar {d : Nat} (h : d < 10) (fuel : Nat) (cs : List Char) :
    value (fuel + 1) (Decimal.digitChar d :: cs) = number false (Decimal.digitChar d :: cs) := by
  interval_cases d <;> rfl

theorem value_written {s : Spelling} {marked : Bool} (h : s.IsLiteral marked) {rest : List Char}
    (hrest : EndsNumeral rest) (fuel : Nat) :
    value (fuel + 1) (s.written marked ++ rest)
      = (.number (Numeral.ofSpelling? (s.fraction.isEmpty && !marked) s), some rest) := by
  have hbody := number_body h hrest
  rw [Spelling.written]
  cases hneg : s.negative with
  | true =>
    rw [hneg] at hbody
    exact hbody
  | false =>
    obtain ⟨d, ds, hw⟩ := List.exists_cons_of_ne_nil h.whole_ne_nil
    have hd : d < 10 := h.whole_lt d (by simp [hw])
    rw [hneg, Spelling.body, hw] at hbody
    rw [Spelling.body, hw]
    exact (value_digitChar hd fuel _).trans hbody

end Json.Scan

theorem Spelling.written_opening {s : Spelling} {marked : Bool} (h : s.IsLiteral marked) :
    ∃ c cs, s.written marked = c :: cs ∧ (c = '-' ∨ Decimal.isPlain c = true) := by
  rw [written]
  split
  · exact ⟨'-', _, rfl, .inl rfl⟩
  · obtain ⟨d, ds, hw⟩ := List.exists_cons_of_ne_nil h.whole_ne_nil
    have hd : d < 10 := h.whole_lt d (by simp [hw])
    rw [body, hw]
    exact ⟨Decimal.digitChar d, _, rfl, .inr (Decimal.isPlain_digitChar hd)⟩

/-- Whether the literal of a number that is no integer is read as the number nearest to what it
spells. -/
def Number.IsReadNearest (x : Number) : Prop :=
  x.integer? = none →
    (Spelling.ofChars? (x.layOut .json)).bind Json.Numeral.approximate?
      = Number.ofChars? (x.layOut .json)

instance (x : Number) : Decidable x.IsReadNearest := inferInstanceAs (Decidable (_ → _))

namespace Numeral

/-- What the reader makes of the literal of a numeral; nothing if it is out of range. -/
def reread? : Numeral → Option Numeral
  | .real x => (Spelling.ofChars? (x.layOut .json)).bind (Json.Numeral.ofSpelling? false)
  | n => some n

/-- The text of the numeral is read as one literal, whatever follows it. -/
structure IsRead (n : Numeral) : Prop where
  opening : ∃ c cs, n.chars = c :: cs ∧ (c = '-' ∨ Decimal.isPlain c = true)
  read : ∀ fuel rest, Json.Scan.EndsNumeral rest →
    Json.Scan.value (fuel + 1) (n.chars ++ rest) = (.number n.reread?, some rest)

/-- The text of the numeral is read as the numeral, whatever follows it. -/
structure IsReadBack (n : Numeral) : Prop extends IsRead n where
  back : n.reread? = some n

theorem isReadBack_int {n : Int} (hlow : -(Nat.pow 2 63 : Int) ≤ n) (hhigh : n < Nat.pow 2 64) :
    (Numeral.int n).IsReadBack := by
  have hchars : (Numeral.int n).chars = _ := Decimal.intChars_eq_written n
  refine ⟨⟨hchars ▸ Spelling.written_opening (Decimal.isLiteral_int n), fun fuel rest hrest => ?_⟩,
    rfl⟩
  have hscan := Json.Scan.value_written (Decimal.isLiteral_int n) hrest fuel
  have hback : Json.Numeral.ofSpelling? true ⟨decide (n < 0), Decimal.digits n.natAbs, [], 0⟩
      = some (.int n) := by
    simp only [Json.Numeral.ofSpelling?, Decimal.ofDigits_digits, Bool.true_and]
    generalize Nat.pow 2 63 = low at hlow
    generalize Nat.pow 2 64 = high at hhigh
    by_cases hneg : n < 0
    · have hpos : 0 < n.natAbs := by omega
      have hle : n.natAbs ≤ low := by omega
      have hcast : -(n.natAbs : Int) = n := by omega
      simp only [hneg, decide_true, Bool.not_true, Bool.false_and, Bool.true_and, hpos, hle,
        decide_true, Bool.and_self, if_true, hcast]
      rfl
    · have hfits : n.natAbs < high := by omega
      have hcast : (n.natAbs : Int) = n := by omega
      simp only [hneg, decide_false, Bool.not_false, Bool.true_and, hfits, decide_true, if_true,
        hcast]
  rw [hchars, hscan]
  exact congrArg (fun m => (Json.Draft.number m, some rest)) hback

theorem isReadBack_index {n : Nat} (h : n < Nat.pow 2 64) : (Numeral.int n).IsReadBack := by
  apply isReadBack_int
  · have hlow : 0 ≤ (Nat.pow 2 63 : Int) := Int.natCast_nonneg _
    omega
  · exact Int.ofNat_lt.2 h

theorem isLiteral_zero (negative : Bool) :
    (⟨negative, [0], [0], 0⟩ : Spelling).IsLiteral false where
  digit_lt := by cases negative <;> decide
  whole_ne_nil := List.cons_ne_nil _ _
  leading_zero _ := rfl
  exponent_eq _ := rfl

theorem real_cases (x : Number) :
    ∃ (s : Spelling) (marked : Bool), s.IsLiteral marked ∧ x.layOut .json = s.written marked ∧
      (s.fraction.isEmpty && !marked) = false ∧ Spelling.ofChars? (x.layOut .json) = some s ∧
      Number.ofChars? (x.layOut .json) = some x := by
  by_cases hzero : x = .zero
  · rw [hzero]
    exact ⟨⟨false, [0], [0], 0⟩, false, isLiteral_zero false, rfl, rfl, rfl, rfl⟩
  · obtain ⟨s, marked, hliteral, -, hread, hfraction, hwritten⟩ :=
      Number.layOut_eq_written hzero .json
    have hspelled := Spelling.ofChars?_written hliteral
    rw [← hwritten] at hspelled
    refine ⟨s, marked, hliteral, hwritten, ?_, hspelled, ?_⟩
    · rcases hfraction rfl with hf | hm
      · simp [hf]
      · simp [hm]
    · rw [Number.ofChars?, hspelled, Option.bind_some, hread]

theorem isRead_real (x : Number) : (Numeral.real x).IsRead := by
  obtain ⟨s, marked, hliteral, hwritten, hplain, hspelled, -⟩ := real_cases x
  have hchars : (Numeral.real x).chars = s.written marked := hwritten
  refine ⟨hchars ▸ Spelling.written_opening hliteral, fun fuel rest hrest => ?_⟩
  rw [hchars, Json.Scan.value_written hliteral hrest, hplain, reread?, hspelled, Option.bind_some]

theorem isRead_negativeZero : negativeZero.IsRead := by
  have hchars : negativeZero.chars = (⟨true, [0], [0], 0⟩ : Spelling).written false := by decide
  have hzero : Json.Numeral.ofSpelling? false ⟨true, [0], [0], 0⟩ = some .negativeZero := by
    decide +kernel
  refine ⟨⟨'-', _, rfl, .inl rfl⟩, fun fuel rest hrest => ?_⟩
  rw [hchars, Json.Scan.value_written (isLiteral_zero true) hrest]
  exact congrArg (fun n => (Json.Draft.number n, some rest)) hzero

theorem toNumber?_ofSpelling? (s : Spelling) :
    (Json.Numeral.ofSpelling? false s).bind toNumber? = Json.Numeral.approximate? s := by
  simp only [Json.Numeral.ofSpelling?, Bool.false_and, Bool.false_eq_true, if_false]
  cases Json.Numeral.approximate? s with
  | none => rfl
  | some x =>
    simp only [Option.map_some, Option.bind_some]
    split
    · next h =>
      rw [Bool.and_eq_true, decide_eq_true_eq] at h
      rw [h.2]
      rfl
    · rfl

theorem isReadNearest_iff {x : Number} {s : Spelling} (hx : x.integer? = none)
    (hspelled : Spelling.ofChars? (x.layOut .json) = some s) :
    x.IsReadNearest ↔ Json.Numeral.approximate? s = some x := by
  obtain ⟨-, -, -, -, -, -, hnumber⟩ := real_cases x
  constructor
  · intro h
    have heq := h hx
    rw [hspelled, hnumber, Option.bind_some] at heq
    exact heq
  · intro h _
    rw [hspelled, hnumber, Option.bind_some]
    exact h

/-- A number is found again in what its literal is read as if and only if that is read to the
nearest number. -/
theorem reread?_real {x : Number} (hx : x.integer? = none) :
    (Numeral.real x).reread?.bind toNumber? = some x ↔ x.IsReadNearest := by
  obtain ⟨s, -, -, -, -, hspelled, -⟩ := real_cases x
  have hread : (Numeral.real x).reread? = Json.Numeral.ofSpelling? false s := by
    rw [reread?, hspelled, Option.bind_some]
  rw [hread, toNumber?_ofSpelling?, isReadNearest_iff hx hspelled]

theorem isReadBack_real {x : Number} (hx : x.integer? = none) (h : x.IsReadNearest) :
    (Numeral.real x).IsReadBack := by
  have hne : x ≠ .zero := by
    rintro rfl
    rw [Number.integer?_zero] at hx
    cases hx
  obtain ⟨s, -, -, -, -, hspelled, -⟩ := real_cases x
  have hnearest := (isReadNearest_iff hx hspelled).1 h
  have hback : Json.Numeral.ofSpelling? false s = some (.real x) := by
    simp only [Json.Numeral.ofSpelling?, Bool.false_and, Bool.false_eq_true, if_false, hnearest,
      Option.map_some, hne, decide_false, Bool.and_false]
  refine ⟨isRead_real x, ?_⟩
  rw [reread?, hspelled, Option.bind_some, hback]

end Numeral

namespace Json

theorem exists_ofNumber (x : Number) : ∃ n, ofNumber x = .number n := by
  rw [ofNumber]
  split
  · exact ⟨_, rfl⟩
  · exact ⟨_, rfl⟩

theorem toNumber?_of_ofNumber {x : Number} {n : Numeral} (h : ofNumber x = .number n) :
    n.toNumber? = some x := by
  rw [ofNumber] at h
  split at h
  · next m hm =>
    cases h
    exact Number.ofInt?_of_toInt? (Number.integer?_eq_some.1 hm).1
  · cases h
    rfl

theorem ofNumber_cases {x : Number} {n : Numeral} (h : ofNumber x = .number n) :
    (n.IsReadBack ∧ x.IsReadNearest) ∨ (n = .real x ∧ x.integer? = none) := by
  rw [ofNumber] at h
  split at h
  · next m hm =>
    cases h
    have hsmall : m.natAbs < 9 * Nat.pow 10 15 := (Number.integer?_eq_some.1 hm).2
    have hlimit : 9 * Nat.pow 10 15 < Nat.pow 2 63 := by decide
    have hdouble : Nat.pow 2 63 < Nat.pow 2 64 := by decide
    refine .inl ⟨Numeral.isReadBack_int ?_ ?_, fun hnone => ?_⟩
    · generalize Nat.pow 2 63 = low at hlimit
      omega
    · generalize Nat.pow 2 63 = low at hlimit hdouble
      generalize Nat.pow 2 64 = high at hdouble
      omega
    · cases hnone.symm.trans hm
  · next hm =>
    cases h
    exact .inr ⟨rfl, hm⟩

theorem isReadBack_of_ofNumber {x : Number} {n : Numeral} (h : ofNumber x = .number n)
    (hx : x.IsReadNearest) : n.IsReadBack := by
  rcases ofNumber_cases h with ⟨hback, -⟩ | ⟨rfl, hnone⟩
  · exact hback
  · exact Numeral.isReadBack_real hnone hx

theorem isRead_of_ofNumber {x : Number} {n : Numeral} (h : ofNumber x = .number n) : n.IsRead := by
  rcases ofNumber_cases h with ⟨hback, -⟩ | ⟨rfl, hnone⟩
  · exact hback.toIsRead
  · exact Numeral.isRead_real x

/-- The numeral of a number is read as one that stands for the number if and only if its literal is
read to the nearest number. -/
theorem reread?_of_ofNumber {x : Number} {n : Numeral} (h : ofNumber x = .number n) :
    n.reread?.bind Numeral.toNumber? = some x ↔ x.IsReadNearest := by
  rcases ofNumber_cases h with ⟨hback, hnearest⟩ | ⟨rfl, hnone⟩
  · rw [hback.back, Option.bind_some, toNumber?_of_ofNumber h]
    exact ⟨fun _ => hnearest, fun _ => rfl⟩
  · exact Numeral.reread?_real hnone

end Json

end Criteria
