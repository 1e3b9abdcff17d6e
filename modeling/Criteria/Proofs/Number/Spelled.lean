import Criteria.Proofs.Number.Nearest
import Criteria.Proofs.Number.Text

namespace Criteria

namespace Decimal

theorem ofDigits_append (ds es : List Nat) :
    ofDigits (ds ++ es) = es.foldl (fun n d => 10 * n + d) (ofDigits ds) :=
  List.foldl_append

theorem ofDigits_zeros_append (k : Nat) (ds : List Nat) :
    ofDigits (List.replicate k 0 ++ ds) = ofDigits ds := by
  have hzeros : ofDigits (List.replicate k 0) = 0 := by
    induction k with
    | zero => rfl
    | succ k ih => exact ih
  rw [ofDigits_append, hzeros]
  rfl

theorem ofDigits_append_zeros (ds : List Nat) (k : Nat) :
    ofDigits (ds ++ List.replicate k 0) = ofDigits ds * Nat.pow 10 k := by
  induction k with
  | zero => simp
  | succ k ih =>
    rw [List.replicate_succ', ← List.append_assoc, ofDigits_append, ih, List.foldl_cons,
      List.foldl_nil, Nat.mul_comm 10, Nat.add_zero, Nat.mul_assoc]
    rfl

theorem foldl_lt {ds : List Nat} {n bound : Nat} (hds : ∀ d ∈ ds, d < 10) (hn : n < bound) :
    ds.foldl (fun n d => 10 * n + d) n < bound * Nat.pow 10 ds.length := by
  induction ds generalizing n bound with
  | nil => exact Nat.lt_of_lt_of_eq hn (Nat.mul_one bound).symm
  | cons d ds ih =>
    have hd : d < 10 := hds d List.mem_cons_self
    have hnext : 10 * n + d < bound * 10 := by omega
    have hlt := ih (fun e he => hds e (List.mem_cons_of_mem _ he)) hnext
    have hpow : Nat.pow 10 (ds.length + 1) = 10 * Nat.pow 10 ds.length := Nat.pow_succ'
    rw [List.length_cons, hpow, ← Nat.mul_assoc]
    exact hlt

theorem ofDigits_lt {ds : List Nat} (h : ∀ d ∈ ds, d < 10) :
    ofDigits ds < Nat.pow 10 ds.length := by
  have hlt := foldl_lt h Nat.zero_lt_one
  rwa [Nat.one_mul] at hlt

theorem foldl_digitsOf {fuel n : Nat} {later : List Nat} (h : n < Nat.pow 10 fuel) :
    ofDigits (digitsOf fuel n later) = later.foldl (fun n d => 10 * n + d) n := by
  induction fuel generalizing n later with
  | zero =>
    have hn : n = 0 := Nat.lt_one_iff.1 h
    rw [hn]
    rfl
  | succ fuel ih =>
    rw [digitsOf]
    split
    · simp [ofDigits]
    · have hdiv : n / 10 < Nat.pow 10 fuel := by
        rw [Nat.div_lt_iff_lt_mul (by decide)]
        exact h
      rw [ih hdiv, List.foldl_cons, Nat.div_add_mod]

theorem ofDigits_digits (n : Nat) : ofDigits (digits n) = n :=
  foldl_digitsOf (lt_pow_log2 n)

theorem digits_lt (n : Nat) : ∀ d ∈ digits n, d < 10 :=
  digitsOf_lt fun _ h => absurd h List.not_mem_nil

theorem head?_digitsOf {fuel n : Nat} {later : List Nat} (hn : n ≠ 0) (h : n < Nat.pow 10 fuel) :
    (digitsOf fuel n later).head? ≠ some 0 := by
  induction fuel generalizing n later with
  | zero => exact absurd (Nat.lt_one_iff.1 h) hn
  | succ fuel ih =>
    rw [digitsOf]
    split
    · simpa using hn
    · apply ih
      · omega
      · rw [Nat.div_lt_iff_lt_mul (by decide)]
        exact h

theorem head?_digits {n : Nat} (hn : n ≠ 0) : (digits n).head? ≠ some 0 :=
  head?_digitsOf hn (lt_pow_log2 n)

theorem chars_append (ds es : List Nat) : chars (ds ++ es) = chars ds ++ chars es :=
  List.map_append

theorem chars_replicate (k : Nat) : chars (List.replicate k 0) = List.replicate k '0' :=
  List.map_replicate

/-- An exponent with its sign, also when it is positive. -/
def signed (e : Int) : List Char := if e < 0 then intChars e else '+' :: intChars e

end Decimal

namespace Spelling

/-- The exponent as it is written, if it is. -/
def exponentPart (s : Spelling) (marked : Bool) : List Char :=
  if marked then 'e' :: Decimal.signed s.exponent else []

/-- The text of a spelling after its sign. -/
def body (s : Spelling) (marked : Bool) : List Char :=
  Decimal.chars s.whole
    ++ ((if s.fraction = [] then [] else '.' :: Decimal.chars s.fraction) ++ s.exponentPart marked)

def written (s : Spelling) (marked : Bool) : List Char :=
  if s.negative then '-' :: s.body marked else s.body marked

/-- What makes the text of a spelling a literal. -/
structure IsLiteral (s : Spelling) (marked : Bool) : Prop where
  digit_lt : ∀ d ∈ s.whole ++ s.fraction, d < 10
  whole_ne_nil : s.whole ≠ []
  leading_zero : s.whole.head? = some 0 → s.whole = [0]
  exponent_eq : marked = false → s.exponent = 0

theorem IsLiteral.whole_lt {s : Spelling} {marked : Bool} (h : s.IsLiteral marked) :
    ∀ d ∈ s.whole, d < 10 :=
  fun d hd => h.digit_lt d (List.mem_append_left _ hd)

theorem IsLiteral.fraction_lt {s : Spelling} {marked : Bool} (h : s.IsLiteral marked) :
    ∀ d ∈ s.fraction, d < 10 :=
  fun d hd => h.digit_lt d (List.mem_append_right _ hd)

/-- No digit stands at the head of the text. -/
def StopsDigits (cs : List Char) : Prop := ∀ c ∈ cs.head?, digit? c = none

theorem digit?_digitChar {d : Nat} (h : d < 10) : digit? (Decimal.digitChar d) = some d := by
  decide +revert

theorem spanDigits_stop {rest : List Char} (h : StopsDigits rest) :
    spanDigits rest = ([], rest) := by
  cases rest with
  | nil => rfl
  | cons c cs => simp only [spanDigits, h c rfl]

theorem spanDigits_chars {ds : List Nat} {rest : List Char} (hds : ∀ d ∈ ds, d < 10)
    (hrest : StopsDigits rest) : spanDigits (Decimal.chars ds ++ rest) = (ds, rest) := by
  induction ds with
  | nil => exact spanDigits_stop hrest
  | cons d ds ih =>
    have hd : digit? (Decimal.digitChar d) = some d := digit?_digitChar (hds d (by simp))
    have htail := ih fun e he => hds e (by simp [he])
    have hcons : Decimal.chars (d :: ds) ++ rest
        = Decimal.digitChar d :: (Decimal.chars ds ++ rest) := rfl
    rw [hcons, spanDigits, hd]
    simp only [htail]

theorem digit?_lt {c : Char} {d : Nat} (h : digit? c = some d) : d < 10 := by
  rw [digit?] at h
  split at h
  · next hrange =>
    cases h
    have hle : c.toNat ≤ '9'.toNat := hrange.2
    have hnine : '9'.toNat = 57 := rfl
    have hzero : '0'.toNat = 48 := rfl
    omega
  · cases h

theorem spanDigits_lt (cs : List Char) : ∀ d ∈ (spanDigits cs).1, d < 10 := by
  induction cs with
  | nil => exact fun d hd => absurd hd List.not_mem_nil
  | cons c cs ih =>
    rw [spanDigits]
    cases hc : digit? c with
    | none => exact fun d hd => absurd hd List.not_mem_nil
    | some e => exact List.forall_mem_cons.2 ⟨digit?_lt hc, ih⟩

theorem length_spanDigits_le (cs : List Char) : (spanDigits cs).1.length ≤ cs.length := by
  induction cs with
  | nil => exact Nat.le_refl 0
  | cons c cs ih =>
    rw [spanDigits]
    cases digit? c with
    | none => exact Nat.zero_le _
    | some e => exact Nat.succ_le_succ ih

theorem spanSign_digitChar {d : Nat} (h : d < 10) (cs : List Char) :
    spanSign (Decimal.digitChar d :: cs) = (false, Decimal.digitChar d :: cs) := by
  have hminus : Decimal.digitChar d ≠ '-' := by decide +revert
  have hplus : Decimal.digitChar d ≠ '+' := by decide +revert
  rw [spanSign]
  · intro cs' hcs
    exact hminus (List.cons.inj hcs).1
  · intro cs' hcs
    exact hplus (List.cons.inj hcs).1

theorem spanSign_signed (e : Int) (rest : List Char) :
    spanSign (Decimal.signed e ++ rest) = (decide (e < 0), Decimal.natChars e.natAbs ++ rest) := by
  cases e with
  | ofNat n => rfl
  | negSucc n =>
    have hneg : Int.negSucc n < 0 := Int.negSucc_lt_zero n
    simp only [Decimal.signed, hneg, if_true, decide_true]
    rfl

theorem spanDigits_natChars (n : Nat) {rest : List Char} (hrest : StopsDigits rest) :
    spanDigits (Decimal.natChars n ++ rest) = (Decimal.digits n, rest) :=
  spanDigits_chars (Decimal.digits_lt n) hrest

theorem signed_ofDigits (e : Int) :
    (if decide (e < 0) then -(Decimal.ofDigits (Decimal.digits e.natAbs) : Int)
      else Decimal.ofDigits (Decimal.digits e.natAbs)) = e := by
  rw [Decimal.ofDigits_digits]
  simp only [decide_eq_true_eq]
  split <;> omega

theorem stopsDigits_nil : StopsDigits [] := fun c hc => by cases hc

theorem stopsDigits_cons {c : Char} (h : digit? c = none) (cs : List Char) :
    StopsDigits (c :: cs) := by
  intro d hd
  cases hd
  exact h

theorem stopsDigits_exponentPart (s : Spelling) (marked : Bool) :
    StopsDigits (s.exponentPart marked) := by
  cases marked with
  | false => exact stopsDigits_nil
  | true => exact stopsDigits_cons (by decide) _

theorem exponent?_exponentPart {s : Spelling} {marked : Bool} (h : s.IsLiteral marked) :
    exponent? (s.exponentPart marked) = some s.exponent := by
  cases marked with
  | false => exact congrArg some (h.exponent_eq rfl).symm
  | true =>
    have hsign := spanSign_signed s.exponent []
    have hspan := spanDigits_natChars s.exponent.natAbs stopsDigits_nil
    have hback := signed_ofDigits s.exponent
    obtain ⟨d, ds, hdigits⟩ := List.exists_cons_of_ne_nil (Decimal.digits_ne_nil s.exponent.natAbs)
    rw [List.append_nil] at hsign
    rw [hdigits] at hspan hback
    simp only [exponentPart, if_true, exponent?, true_or, hsign, hspan, hback]

theorem spanSign_written {s : Spelling} {marked : Bool} (h : s.IsLiteral marked) :
    spanSign (s.written marked) = (s.negative, s.body marked) := by
  rw [written]
  cases s.negative with
  | true => rfl
  | false =>
    rcases hw : s.whole with _ | ⟨d, ds⟩
    · exact absurd hw h.whole_ne_nil
    · have hd : d < 10 := h.whole_lt d (by simp [hw])
      simp only [Bool.false_eq_true, if_false, body, hw]
      exact spanSign_digitChar hd _

theorem ofChars?_written {s : Spelling} {marked : Bool} (h : s.IsLiteral marked) :
    ofChars? (s.written marked) = some s := by
  have hstop := stopsDigits_exponentPart s marked
  have hexponent := exponent?_exponentPart h
  have hwhole : s.whole.isEmpty = false := by simpa using h.whole_ne_nil
  simp only [ofChars?, spanSign_written h, body]
  by_cases hf : s.fraction = []
  · simp only [hf, if_true, List.nil_append, spanDigits_chars h.whole_lt hstop]
    have hs : (⟨s.negative, s.whole, [], s.exponent⟩ : Spelling) = s := by rw [← hf]
    have hnoPoint : ∀ cs, s.exponentPart marked ≠ '.' :: cs := by
      intro cs hcs
      rw [hcs] at hexponent
      cases hexponent
    generalize s.exponentPart marked = part at hexponent hnoPoint
    split
    · exact absurd rfl (hnoPoint _)
    · simp only [hwhole, Bool.false_and, Bool.false_eq_true, if_false, hexponent,
        Option.map_some, hs]
  · have hpoint : StopsDigits ('.' :: Decimal.chars s.fraction ++ s.exponentPart marked) :=
      stopsDigits_cons (by decide) _
    rw [if_neg hf, spanDigits_chars h.whole_lt hpoint]
    simp only [List.cons_append, spanDigits_chars h.fraction_lt hstop, hwhole, Bool.false_and,
      Bool.false_eq_true, if_false, hexponent, Option.map_some]

end Spelling

namespace Spelling

/-- The spelling has the digits of the decimal, with zeros before and after them, and the point
where the decimal has it. -/
def Spells (s : Spelling) (d : Decimal) : Prop :=
  ∃ before after,
    s.whole ++ s.fraction
      = List.replicate before 0 ++ (Decimal.digits d.coefficient ++ List.replicate after 0) ∧
    s.exponent - s.fraction.length = d.exponent - after

theorem Spells.digit_lt {s : Spelling} {d : Decimal} (h : s.Spells d) :
    ∀ a ∈ s.whole ++ s.fraction, a < 10 := by
  obtain ⟨before, after, hdigits, -⟩ := h
  intro a ha
  simp only [hdigits, List.mem_append, List.mem_replicate] at ha
  rcases ha with ⟨-, rfl⟩ | ha | ⟨-, rfl⟩
  · exact Nat.succ_pos 9
  · exact Decimal.digits_lt _ a ha
  · exact Nat.succ_pos 9

theorem Spells.decimal_eq {s : Spelling} {d : Decimal} (h : s.Spells d) :
    ∃ k, s.decimal = d.shift k := by
  obtain ⟨before, after, hdigits, hexp⟩ := h
  refine ⟨after, ?_⟩
  rw [decimal, hdigits, hexp, Decimal.ofDigits_zeros_append, Decimal.ofDigits_append_zeros,
    Decimal.ofDigits_digits]
  rfl

/-- Zeros around the digits do not change what is read. -/
theorem Spells.toNumber?_eq {s : Spelling} {d : Decimal} (h : s.Spells d) (negative : Bool) :
    s.decimal.toNumber? negative = d.toNumber? negative := by
  obtain ⟨k, hk⟩ := h.decimal_eq
  rw [hk, Decimal.toNumber?_shift]

/-- The spelling is that of the text, a literal for the decimal without its sign. -/
structure IsSpellingOf (s : Spelling) (marked : Bool) (d : Decimal) (cs : List Char) : Prop where
  spells : s.Spells d
  whole_ne_nil : s.whole ≠ []
  leading_zero : s.whole.head? = some 0 → s.whole = [0]
  exponent_eq : marked = false → s.exponent = 0
  text : cs = s.body marked

theorem IsSpellingOf.isLiteral {s : Spelling} {marked : Bool} {d : Decimal} {cs : List Char}
    (h : s.IsSpellingOf marked d cs) : s.IsLiteral marked :=
  ⟨h.spells.digit_lt, h.whole_ne_nil, h.leading_zero, h.exponent_eq⟩

end Spelling

namespace Decimal

theorem head?_append_of_ne_nil {ds : List Nat} (h : ds ≠ []) (es : List Nat) :
    (ds ++ es).head? = ds.head? := by
  cases ds with
  | nil => exact absurd rfl h
  | cons d ds => rfl

theorem leading_add_one (d : Decimal) :
    d.leading + 1 = d.exponent + (digits d.coefficient).length := by
  rw [leading]
  omega

theorem length_chars (ds : List Nat) : (chars ds).length = ds.length := List.length_map _

theorem length_natChars (n : Nat) : (natChars n).length = (digits n).length := length_chars _

theorem take_natChars (n k : Nat) : (natChars n).take k = chars ((digits n).take k) :=
  List.map_take.symm

theorem drop_natChars (n k : Nat) : (natChars n).drop k = chars ((digits n).drop k) :=
  List.map_drop.symm

section layouts

variable {d : Decimal} (wholeFraction negative : Bool)

theorem positional_behind (hle : d.leading + 1 ≤ 0) :
    (⟨negative, [0], List.replicate (d.leading + 1).natAbs 0 ++ digits d.coefficient, 0⟩ :
      Spelling).IsSpellingOf false d
        (positional wholeFraction (natChars d.coefficient) (d.leading + 1)) := by
  have hne := digits_ne_nil d.coefficient
  have hlead := leading_add_one d
  refine ⟨⟨(d.leading + 1).natAbs + 1, 0, ?_, ?_⟩, List.cons_ne_nil _ _, fun _ => rfl,
    fun _ => rfl, ?_⟩
  · simp [List.replicate_succ]
  · simp only [List.length_append, List.length_replicate]
    omega
  · rw [positional, if_pos hle]
    simp [Spelling.body, Spelling.exponentPart, hne, chars_append, chars_replicate, natChars]
    rfl

theorem positional_before (hd : d.coefficient ≠ 0) (hlt : ¬ d.leading + 1 ≤ 0)
    (hfew : (natChars d.coefficient).length ≤ (d.leading + 1).toNat) :
    (⟨negative, digits d.coefficient
        ++ List.replicate ((d.leading + 1).toNat - (digits d.coefficient).length) 0,
      if wholeFraction then [0] else [], 0⟩ : Spelling).IsSpellingOf false d
        (positional wholeFraction (natChars d.coefficient) (d.leading + 1)) := by
  have hne := digits_ne_nil d.coefficient
  have hlead := leading_add_one d
  have htext := hfew
  rw [length_natChars] at hfew
  refine ⟨⟨0, (d.leading + 1).toNat - (digits d.coefficient).length
    + if wholeFraction then 1 else 0, ?_, ?_⟩, ?_, ?_, fun _ => rfl, ?_⟩
  · cases wholeFraction <;> simp [List.replicate_succ']
  · cases wholeFraction <;> simp <;> omega
  · simp [hne]
  · intro hzero
    rw [head?_append_of_ne_nil hne] at hzero
    exact absurd hzero (head?_digits hd)
  · rw [positional, if_neg hlt]
    dsimp only
    rw [if_pos htext]
    cases wholeFraction <;>
      simp [Spelling.body, Spelling.exponentPart, chars_append, chars_replicate, natChars,
        length_chars]
    rfl

theorem positional_among (hd : d.coefficient ≠ 0) (hlt : ¬ d.leading + 1 ≤ 0)
    (hmany : ¬ (natChars d.coefficient).length ≤ (d.leading + 1).toNat) :
    (⟨negative, (digits d.coefficient).take (d.leading + 1).toNat,
      (digits d.coefficient).drop (d.leading + 1).toNat, 0⟩ : Spelling).IsSpellingOf false d
        (positional wholeFraction (natChars d.coefficient) (d.leading + 1)) ∧
      (digits d.coefficient).drop (d.leading + 1).toNat ≠ [] := by
  have hlead := leading_add_one d
  have htext := hmany
  rw [length_natChars] at hmany
  have htake : (digits d.coefficient).take (d.leading + 1).toNat ≠ [] := by
    simp [digits_ne_nil]
    omega
  have hdrop : (digits d.coefficient).drop (d.leading + 1).toNat ≠ [] := by
    simp
    omega
  refine ⟨⟨⟨0, 0, ?_, ?_⟩, htake, ?_, fun _ => rfl, ?_⟩, hdrop⟩
  · simp
  · simp
    omega
  · intro hzero
    rw [← head?_append_of_ne_nil htake, List.take_append_drop] at hzero
    exact absurd hzero (head?_digits hd)
  · rw [positional, if_neg hlt]
    dsimp only
    rw [if_neg htext]
    simp [Spelling.body, Spelling.exponentPart, hdrop, take_natChars, drop_natChars]

theorem positional_spelled (hd : d.coefficient ≠ 0) :
    ∃ s : Spelling, s.negative = negative ∧ (wholeFraction = true → s.fraction ≠ []) ∧
      s.IsSpellingOf false d
        (positional wholeFraction (natChars d.coefficient) (d.leading + 1)) := by
  by_cases hle : d.leading + 1 ≤ 0
  · refine ⟨_, rfl, fun _ => ?_, positional_behind wholeFraction negative hle⟩
    simp [digits_ne_nil]
  · by_cases hfew : (natChars d.coefficient).length ≤ (d.leading + 1).toNat
    · refine ⟨_, rfl, fun h => ?_, positional_before wholeFraction negative hd hle hfew⟩
      simp [h]
    · obtain ⟨htext, hdrop⟩ := positional_among wholeFraction negative hd hle hfew
      exact ⟨_, rfl, fun _ => hdrop, htext⟩

theorem scientific_spelled (hd : d.coefficient ≠ 0) :
    ∃ s : Spelling, s.negative = negative ∧
      s.IsSpellingOf true d (scientific (natChars d.coefficient) d.leading) := by
  obtain ⟨a, ds, hdigits⟩ := List.exists_cons_of_ne_nil (digits_ne_nil d.coefficient)
  have hhead := head?_digits hd
  have hlead := leading_add_one d
  rw [hdigits] at hhead hlead
  refine ⟨⟨negative, [a], ds, d.leading⟩, rfl, ⟨⟨0, 0, ?_, ?_⟩, List.cons_ne_nil _ _, ?_, ?_, ?_⟩⟩
  · simp [hdigits]
  · simp only [List.length_cons] at hlead
    dsimp only
    omega
  · intro hzero
    exact absurd hzero hhead
  · intro hmarked
    cases hmarked
  · have hnat : natChars d.coefficient = digitChar a :: chars ds := congrArg chars hdigits
    rw [scientific, hnat, Spelling.body, Spelling.exponentPart]
    cases ds with
    | nil => simp [signed, chars]
    | cons b ds => simp [signed, chars]

/-- What a layout writes is a literal for the decimal. -/
theorem layOut_spelled (hd : d.coefficient ≠ 0) (l : Layout) :
    ∃ (s : Spelling) (marked : Bool), s.negative = negative ∧
      (l.wholeFraction = true → s.fraction ≠ [] ∨ marked = true) ∧
      s.IsSpellingOf marked d (d.layOut l) := by
  rw [layOut]
  split
  · obtain ⟨s, hsign, hfraction, htext⟩ := positional_spelled l.wholeFraction negative hd
    exact ⟨s, false, hsign, fun h => .inl (hfraction h), htext⟩
  · obtain ⟨s, hsign, htext⟩ := scientific_spelled negative hd
    exact ⟨s, true, hsign, fun _ => .inr rfl, htext⟩

end layouts

theorem intChars_eq_written (n : Int) :
    intChars n = (⟨decide (n < 0), digits n.natAbs, [], 0⟩ : Spelling).written false := by
  cases n with
  | ofNat n =>
    simp [intChars, Spelling.written, Spelling.body, Spelling.exponentPart, natChars]
  | negSucc n =>
    have hneg : Int.negSucc n < 0 := Int.negSucc_lt_zero n
    simp [intChars, Spelling.written, Spelling.body, Spelling.exponentPart, natChars, hneg]

theorem isLiteral_int (n : Int) :
    (⟨decide (n < 0), digits n.natAbs, [], 0⟩ : Spelling).IsLiteral false where
  digit_lt := by simpa using digits_lt n.natAbs
  whole_ne_nil := digits_ne_nil _
  leading_zero := by
    intro hzero
    by_cases hn : n.natAbs = 0
    · rw [hn]
      rfl
    · exact absurd hzero (head?_digits hn)
  exponent_eq _ := rfl

end Decimal

namespace Number

theorem coefficient_ne_zero {x : Number} {d : Decimal} (h : x.IsReadFrom d) (hx : x ≠ zero) :
    d.coefficient ≠ 0 := by
  intro hzero
  rw [IsReadFrom, Decimal.toNumber?, if_pos (.inl hzero)] at h
  exact hx (Option.some.inj h).symm

theorem layOut_eq_written {x : Number} (hx : x ≠ zero) (l : Layout) :
    ∃ (s : Spelling) (marked : Bool), s.IsLiteral marked ∧ s.negative = x.negative ∧
      s.decimal.toNumber? s.negative = some x ∧
      (l.wholeFraction = true → s.fraction ≠ [] ∨ marked = true) ∧
      x.layOut l = s.written marked := by
  have hread := x.isReadFrom_shortest l.tie
  have hcoef := coefficient_ne_zero hread hx
  obtain ⟨s, marked, hsign, hfraction, htext⟩ := Decimal.layOut_spelled x.negative hcoef l
  refine ⟨s, marked, htext.isLiteral, hsign, ?_, hfraction, ?_⟩
  · rw [htext.spells.toNumber?_eq, hsign]
    exact hread
  · rw [layOut, Spelling.written, hsign, htext.text]

variable {x : Number} {n : Int}

theorem ofChars?_intChars (hsmall : n.natAbs < 9 * Nat.pow 10 15) :
    ofChars? (Decimal.intChars n) = ofInt? n := by
  have hdecimal : (⟨decide (n < 0), Decimal.digits n.natAbs, [], 0⟩ : Spelling).decimal
      = ⟨n.natAbs, 0⟩ := by
    rw [Spelling.decimal, List.append_nil, Decimal.ofDigits_digits]
    rfl
  rw [ofChars?, Decimal.intChars_eq_written, Spelling.ofChars?_written (Decimal.isLiteral_int n),
    Option.bind_some, hdecimal]
  by_cases hzero : n.natAbs = 0
  · rw [Int.natAbs_eq_zero.1 hzero, ofInt?_of_toInt? toInt?_zero]
    rfl
  · have hlog : Nat.log 10 n.natAbs < 16 := Nat.log_lt_of_lt_pow hzero (hsmall.trans (by decide))
    have hleading : (⟨n.natAbs, 0⟩ : Decimal).leading = Nat.log 10 n.natAbs := by
      rw [Decimal.leading_eq, Int.zero_add]
    have hneither : ¬ (n.natAbs = 0 ∨ (⟨n.natAbs, 0⟩ : Decimal).leading < -330) := by omega
    rw [Decimal.toNumber?, if_neg hneither, if_neg (by omega)]
    exact congrArg (ofQuotient? _ · 1) (Nat.mul_one n.natAbs)

theorem text_of_integer? (h : x.integer? = some n) :
    x.text = String.ofList (Decimal.intChars n) := by
  rw [text, h]

theorem text_of_integer?_none (h : x.integer? = none) :
    x.text = String.ofList (x.layOut .plain) := by
  rw [text, h]

theorem ofChars?_intChars_of_integer? (h : x.integer? = some n) :
    ofChars? (Decimal.intChars n) = some x := by
  obtain ⟨hwhole, hsmall⟩ := integer?_eq_some.1 h
  rw [ofChars?_intChars hsmall, ofInt?_of_toInt? hwhole]

theorem ofChars?_text (x : Number) : ofChars? x.text.toList = some x := by
  cases hx : x.integer? with
  | some n =>
    rw [text_of_integer? hx, String.toList_ofList]
    exact ofChars?_intChars_of_integer? hx
  | none =>
    have hne : x ≠ zero := by
      rintro rfl
      cases hx.symm.trans integer?_zero
    obtain ⟨s, marked, hliteral, -, hread, -, hwritten⟩ := layOut_eq_written hne .plain
    rw [text_of_integer?_none hx, String.toList_ofList, ofChars?, hwritten,
      Spelling.ofChars?_written hliteral, Option.bind_some, hread]

end Number

end Criteria
