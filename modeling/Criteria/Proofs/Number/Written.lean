import Criteria.Proofs.Date.Text
import Criteria.Proofs.Number.Order
import Criteria.Proofs.Tree.Reread
import Criteria.Proofs.Typed

namespace Criteria

namespace Number

variable {x : Number} {n : Int}

theorem toInt?_eq_some : x.toInt? = some n ↔ (Numeral.int n).units = x.units := by
  have hpositive : 0 < Nat.pow 2 1074 := by decide +kernel
  rw [toInt?, units, Numeral.units]
  -- The unit stays a name, so that nothing computes with it.
  generalize Nat.pow 2 1074 = unit at hpositive ⊢
  by_cases hwhole : x.steps % unit = 0
  · have hsteps : x.steps / unit * unit = x.steps :=
      Nat.div_mul_cancel (Nat.dvd_of_mod_eq_zero hwhole)
    have hcast : (x.steps : Int) = (x.steps / unit : Nat) * unit := by
      rw [← Int.natCast_mul, hsteps]
    have hcancel (m : Int) : n * unit = m * unit ↔ m = n := by
      rw [Int.mul_eq_mul_right_iff (Int.natCast_ne_zero.2 (Nat.ne_of_gt hpositive)), eq_comm]
    rw [if_pos hwhole, hcast]
    split
    · rw [← Int.neg_mul, hcancel, Option.some.injEq]
    · rw [hcancel, Option.some.injEq]
  · rw [if_neg hwhole]
    refine iff_of_false (Option.some_ne_none n).symm fun h => hwhole ?_
    have hdvd : (unit : Int) ∣ x.steps := by
      split at h
      · exact Int.dvd_neg.1 (h ▸ Int.dvd_mul_left n unit)
      · exact h ▸ Int.dvd_mul_left n unit
    exact Nat.mod_eq_zero_of_dvd (Int.natCast_dvd_natCast.1 hdvd)

theorem toInt?_eq_some_iff_toRat : x.toInt? = some n ↔ x.toRat = n := by
  rw [toInt?_eq_some, Numeral.units, toRat]
  generalize 1074 = k
  have hcast : ((n * Nat.pow 2 k : Int) : ℚ) = n * 2 ^ k := by
    rw [Int.cast_mul, Int.cast_natCast, Nat.pow_eq, Nat.cast_pow, Nat.cast_two]
  rw [div_eq_iff (by positivity), ← hcast, Int.cast_inj, eq_comm]

theorem integer?_eq_some_iff_toRat :
    x.integer? = some n ↔ x.toRat = n ∧ n.natAbs < 9 * Nat.pow 10 15 := by
  rw [integer?_eq_some, toInt?_eq_some_iff_toRat]

theorem integer?_eq_none :
    x.integer? = none ↔ ∀ n : Int, x.toRat = n → 9 * Nat.pow 10 15 ≤ n.natAbs := by
  rw [Option.eq_none_iff_forall_ne_some]
  refine forall_congr' fun n => ?_
  rw [ne_eq, integer?_eq_some_iff_toRat, not_and, Nat.not_lt]

end Number

theorem Numeral.ofChars?_chars {x : Number} {n : Numeral} (h : Json.ofNumber x = .number n) :
    Number.ofChars? n.chars = some x := by
  rw [Json.ofNumber] at h
  split at h
  · next m hm =>
    cases h
    exact Number.ofChars?_intChars_of_integer? hm
  · cases h
    obtain ⟨-, -, -, -, -, -, hread⟩ := Numeral.real_cases x
    exact hread

theorem Decimal.isBlank_of_isPlain {c : Char} (h : isPlain c = true) : Text.isBlank c = false := by
  simp only [isPlain, Bool.or_eq_true, decide_eq_true_eq] at h
  rcases h with h | rfl
  · simp only [Char.isDigit, Bool.and_eq_true, decide_eq_true_eq] at h
    have hlow : 48 ≤ c.toNat := h.1
    have hhigh : c.toNat ≤ 57 := h.2
    rw [Bool.eq_false_iff]
    simp only [Text.isBlank, Bool.or_eq_true, Bool.and_eq_true, decide_eq_true_eq, ne_eq]
    omega
  · decide

theorem IsNumeral.isBlank {cs : List Char} (h : IsNumeral cs) :
    ∀ c ∈ cs, Text.isBlank c = false := by
  obtain ⟨body, hcs, -, hplain⟩ := h
  have hbody : ∀ c ∈ body, Text.isBlank c = false :=
    fun c hc => Decimal.isBlank_of_isPlain (hplain c hc)
  rcases hcs with rfl | rfl
  · exact hbody
  · exact List.forall_mem_cons.2 ⟨rfl, hbody⟩

theorem Value.number?_text (x : Number) : (Value.text x.text).number? = some x := by
  rw [number?, Text.trim_eq_self x.isNumeral_text.isBlank, Number.ofChars?_text]

theorem Mongo.value_number (field : Option Field) (x : Number) :
    value field (.number x) = .ofNumber x := by
  rw [value]
  split <;> rfl

/-- The reader of trees finds a number again in its JSON text if and only if it reads the literal to
the nearest number. -/
theorem Value.decodeText_number (x : Number) :
    Json.decodeText decoder (Value.number x).toJson.render = .ok (.number x) ↔
      x.IsReadNearest := by
  obtain ⟨n, hn⟩ := Json.exists_ofNumber x
  have hread : ∀ m ∈ (Value.number x).toJson.numerals, m.IsRead := by
    rw [toJson, hn]
    intro m hm
    rw [List.mem_singleton.1 hm]
    exact Json.isRead_of_ofNumber hn
  rw [Json.decodeText_render hread]
  constructor
  · intro h
    exact nearest_of_decoder h x (List.mem_singleton_self x)
  · intro h
    have hback : ∀ m ∈ (Value.number x).toJson.numerals, m.reread? = some m := by
      rw [toJson, hn]
      intro m hm
      rw [List.mem_singleton.1 hm]
      exact (Json.isReadBack_of_ofNumber hn h).back
    have hfits : Json.Fits Json.nestingLimit (Value.number x).toJson := by
      rw [toJson, hn]
      exact Nat.zero_le _
    rw [Json.Draft.readBy_eq hback, decoder_toJson .text hfits]

/-- How a number is written: as plain text, with it in SQL and in sentences unless the field is of
another type, and as a numeral in filters and trees. -/
structure Number.IsWrittenAs (x : Number) (text : String) (n : Numeral) : Prop where
  plain : (Value.number x).plain = text
  sql (field : Option Field) (h : ∀ f ∈ field, f.type = .number) :
    (Sql.literal field (.number x)).token = .word text
  sentence (o : Readable.Options) (field : Option Field) (h : ∀ f ∈ field, f.type = .number) :
    Readable.scalar o field (.number x) = text
  mongo (field : Option Field) : Mongo.value field (.number x) = .number n
  tree : (Value.number x).toJson = .number n

theorem Number.isWrittenAs {x : Number} {n : Numeral} (h : Json.ofNumber x = .number n) :
    x.IsWrittenAs x.text n where
  plain := rfl
  sql field hfield := by
    cases field with
    | none => rfl
    | some f =>
      have htyped : f.typed? (.number x) = some (.number x) := by
        rw [Field.typed?, hfield f rfl]
        rfl
      rw [(Field.written_typed htyped {}).1]
      rfl
  sentence o field hfield := by
    cases field with
    | none => rfl
    | some f =>
      have htyped : f.typed? (.number x) = some (.number x) := by
        rw [Field.typed?, hfield f rfl]
        rfl
      exact (Field.written_typed htyped o).2.2
  mongo field := (Mongo.value_number field x).trans h
  tree := h

/-- The text of a number is a numeral without exponent, and the value of a text with it is the
number again. The numeral in filters and trees stands for the number too, and its characters spell
it. Both have the form of an integer if the number is whole and below nine quadrillion, and neither
does otherwise. The reader of trees finds the number in the numeral just if it reads it to the
nearest number. -/
theorem numbers_spelled_in_outputs (x : Number) :
    ∃ n : Numeral, x.IsWrittenAs x.text n ∧
      (Value.text x.text).number? = some x ∧ IsNumeral x.text.toList ∧
      n.toNumber? = some x ∧ Number.ofChars? n.chars = some x ∧
      ((∃ m : Int, x.toRat = m ∧ m.natAbs < 9 * Nat.pow 10 15 ∧
          x.text = String.ofList (Decimal.intChars m) ∧ n = .int m) ∨
        (∀ m : Int, x.toRat = m → 9 * Nat.pow 10 15 ≤ m.natAbs) ∧
          x.text = String.ofList (x.layOut .plain) ∧ n = .real x) ∧
      (Json.decodeText Value.decoder (Value.number x).toJson.render = .ok (.number x) ↔
        x.IsReadNearest) := by
  obtain ⟨n, hn⟩ := Json.exists_ofNumber x
  refine ⟨n, Number.isWrittenAs hn, Value.number?_text x, x.isNumeral_text,
    Json.toNumber?_of_ofNumber hn, Numeral.ofChars?_chars hn, ?_, Value.decodeText_number x⟩
  rw [Json.ofNumber] at hn
  split at hn
  · next m hm =>
    cases hn
    obtain ⟨hwhole, hsmall⟩ := Number.integer?_eq_some_iff_toRat.1 hm
    exact .inl ⟨m, hwhole, hsmall, Number.text_of_integer? hm, rfl⟩
  · next hm =>
    cases hn
    exact .inr ⟨Number.integer?_eq_none.1 hm, Number.text_of_integer?_none hm, rfl⟩

/-- The first odd whole number that is not written as an integer. Trees hold it with a fraction, and
from there it is read as its neighbour. -/
theorem whole_number_not_read_back :
    let x : Number := ⟨false, 9000000000000001, 1074, by decide, by decide, by decide, by decide⟩
    let y : Number := ⟨false, 9000000000000002, 1074, by decide, by decide, by decide, by decide⟩
    (Value.number x).toJson.render = "9000000000000001.0" ∧
      Json.decodeText Value.decoder "9000000000000001.0" = .ok (.number y) ∧ x ≠ y := by
  intro x y
  exact ⟨by decide +kernel, by decide +kernel, by decide⟩

end Criteria
