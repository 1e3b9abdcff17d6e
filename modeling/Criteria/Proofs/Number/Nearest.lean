import Criteria.Number.Decimal
import Mathlib.Data.Nat.Log

namespace Criteria

namespace Number

theorem roundEven_mul (num den : Nat) {k : Nat} (hk : 0 < k) :
    roundEven (num * k) (den * k) = roundEven num den := by
  have hmod : 2 * (num * k % (den * k)) = 2 * (num % den) * k := by
    rw [Nat.mul_mod_mul_right, Nat.mul_assoc]
  simp only [roundEven, hmod, Nat.mul_div_mul_right _ _ hk, Nat.mul_lt_mul_right hk]

/-- Rounding looks at the quotient, not at how the fraction is written. -/
theorem ofSteps?_mul (negative : Bool) (num den : Nat) {k : Nat} (hk : 0 < k) :
    ofSteps? negative (num * k) (den * k) = ofSteps? negative num den := by
  have hquot : num * k / (den * k) = num / den := Nat.mul_div_mul_right _ _ hk
  have hscale : ∀ e, den * k * Nat.pow 2 e = den * Nat.pow 2 e * k := by
    intro e
    rw [Nat.mul_right_comm]
  simp only [ofSteps?, hquot, hscale, roundEven_mul _ _ hk]

theorem ofQuotient?_mul (negative : Bool) (num den : Nat) {k : Nat} (hk : 0 < k) :
    ofQuotient? negative (num * k) (den * k) = ofQuotient? negative num den := by
  rw [ofQuotient?, Nat.mul_right_comm]
  exact ofSteps?_mul negative _ den hk

theorem log2_mul_pow {m : Nat} (h : m ≠ 0) (e : Nat) :
    (m * Nat.pow 2 e).log2 = m.log2 + e := by
  have hpow : 0 < Nat.pow 2 e := Nat.pow_pos (by decide)
  rw [Nat.log2_eq_iff (Nat.mul_ne_zero h (Nat.ne_of_gt hpow))]
  constructor
  · rw [Nat.pow_add]
    exact Nat.mul_le_mul_right _ (Nat.log2_self_le h)
  · rw [Nat.add_right_comm, Nat.pow_add]
    exact Nat.mul_lt_mul_of_pos_right Nat.lt_log2_self hpow

theorem log2_steps (x : Number) : x.steps.log2 - 52 = x.exponent := by
  rcases x.normal with he | hm
  · have hsteps : x.steps = x.mantissa := by simp [steps, he]
    rw [hsteps, he]
    by_cases hzero : x.mantissa = 0
    · simp [hzero]
    · have hlog : x.mantissa.log2 < 53 := (Nat.log2_lt hzero).2 x.mantissa_lt
      omega
  · have hpos : x.mantissa ≠ 0 := by
      intro hzero
      rw [hzero] at hm
      exact absurd hm (by decide)
    have hlow : 52 ≤ x.mantissa.log2 := (Nat.le_log2 hpos).2 hm
    have hhigh : x.mantissa.log2 < 53 := (Nat.log2_lt hpos).2 x.mantissa_lt
    have hsteps : x.steps.log2 = x.mantissa.log2 + x.exponent := log2_mul_pow hpos x.exponent
    omega

theorem ofSteps?_steps (x : Number) : ofSteps? x.negative x.steps 1 = some x := by
  have hround : roundEven x.steps (1 * Nat.pow 2 x.exponent) = x.mantissa := by
    have hpow : 0 < Nat.pow 2 x.exponent := Nat.pow_pos (by decide)
    have hquot : x.steps / Nat.pow 2 x.exponent = x.mantissa := Nat.mul_div_cancel _ hpow
    have hrest : x.steps % Nat.pow 2 x.exponent = 0 := Nat.mul_mod_left _ _
    simp only [roundEven, Nat.one_mul, hquot, hrest, Nat.mul_zero, hpow, if_true]
  have hnoCarry : x.mantissa ≠ Nat.pow 2 53 := Nat.ne_of_lt x.mantissa_lt
  have hsign : (x.negative && x.mantissa != 0) = x.negative := by
    cases hneg : x.negative with
    | false => rfl
    | true => simpa using x.unsigned_zero hneg
  simp only [ofSteps?, Nat.div_one, log2_steps, hround, if_neg hnoCarry, ofParts?, hsign]
  exact dif_pos ⟨x.mantissa_lt, x.exponent_le, x.normal⟩

theorem ofSteps?_exact (x : Number) {k : Nat} (hk : 0 < k) :
    ofSteps? x.negative (x.steps * k) k = some x := by
  have hmul := ofSteps?_mul x.negative x.steps 1 hk
  rw [Nat.one_mul] at hmul
  rw [hmul, ofSteps?_steps]

theorem steps_pos {x : Number} (h : x.mantissa ≠ 0) : 0 < x.steps :=
  Nat.mul_pos (Nat.pos_of_ne_zero h) (Nat.pow_pos (by decide))

/-- A bound for all numbers, with the greatest exponent left open so that no power is computed. -/
theorem steps_mul_lt {x : Number} {e c bound : Nat} (he : x.exponent ≤ e) (hc : 0 < c)
    (hbound : Nat.pow 2 53 * Nat.pow 2 e * c ≤ bound) : x.steps * c < bound :=
  calc x.steps * c < Nat.pow 2 53 * Nat.pow 2 x.exponent * c :=
        Nat.mul_lt_mul_of_pos_right
          (Nat.mul_lt_mul_of_pos_right x.mantissa_lt (Nat.pow_pos (by decide))) hc
    _ ≤ Nat.pow 2 53 * Nat.pow 2 e * c :=
        Nat.mul_le_mul_right _ (Nat.mul_le_mul_left _ (Nat.pow_le_pow_right (by decide) he))
    _ ≤ bound := hbound

theorem eq_zero {x : Number} (h : x.mantissa = 0) : x = zero := by
  have hexp : x.exponent = 0 := by
    rcases x.normal with he | hm
    · exact he
    · rw [h] at hm
      exact absurd hm (by decide)
  have hsign : x.negative = false := by
    cases hneg : x.negative with
    | false => rfl
    | true => exact absurd h (x.unsigned_zero hneg)
  cases x
  subst h hexp hsign
  rfl

theorem ofInt?_of_toInt? {x : Number} {n : Int} (h : x.toInt? = some n) : ofInt? n = some x := by
  have hpositive : 0 < x.mantissa → 0 < x.steps := fun hm => steps_pos (Nat.ne_of_gt hm)
  have hexact := x.ofSteps?_steps
  rw [toInt?] at h
  rw [ofInt?, ofQuotient?]
  -- The unit stays a name, so that nothing computes with it.
  generalize Nat.pow 2 1074 = unit at h ⊢
  split at h
  · next hwhole =>
    have hsteps : x.steps / unit * unit = x.steps :=
      Nat.div_mul_cancel (Nat.dvd_of_mod_eq_zero hwhole)
    generalize x.steps / unit = q at h hsteps
    cases hneg : x.negative with
    | false =>
      simp only [hneg, Bool.false_eq_true, if_false, Option.some.injEq] at h
      have hsign : decide (n < 0) = x.negative := by
        rw [hneg, decide_eq_false_iff_not]
        omega
      have habs : n.natAbs = q := by omega
      rw [hsign, habs, hsteps]
      exact hexact
    | true =>
      simp only [hneg, if_true, Option.some.injEq] at h
      have hquot : 0 < q := by
        apply Nat.pos_of_ne_zero
        intro hzero
        rw [hzero, Nat.zero_mul] at hsteps
        exact absurd (hpositive (Nat.pos_of_ne_zero (x.unsigned_zero hneg))) (by omega)
      have hsign : decide (n < 0) = x.negative := by
        rw [hneg, decide_eq_true_eq]
        omega
      have habs : n.natAbs = q := by omega
      rw [hsign, habs, hsteps]
      exact hexact
  · cases h

theorem integer?_eq_some {x : Number} {n : Int} :
    x.integer? = some n ↔ x.toInt? = some n ∧ n.natAbs < 9 * Nat.pow 10 15 := by
  simp [integer?, Option.filter_eq_some_iff]

theorem toInt?_zero : zero.toInt? = some 0 := by
  have hsteps : zero.steps = 0 := rfl
  simp only [toInt?, hsteps]
  generalize Nat.pow 2 1074 = unit
  simp [zero]

theorem integer?_zero : zero.integer? = some 0 :=
  integer?_eq_some.2 ⟨toInt?_zero, by decide⟩

end Number

namespace Decimal

/-- The same decimal with zeros appended to its coefficient. -/
def shift (k : Nat) (d : Decimal) : Decimal := ⟨d.coefficient * Nat.pow 10 k, d.exponent - k⟩

theorem length_digitsOf {fuel n : Nat} {later : List Nat} (hpos : 0 < fuel)
    (h : n < Nat.pow 10 fuel) :
    (digitsOf fuel n later).length = Nat.log 10 n + 1 + later.length := by
  induction fuel generalizing n later with
  | zero => exact absurd hpos (Nat.lt_irrefl 0)
  | succ fuel ih =>
    rw [digitsOf]
    split
    · next hn => rw [Nat.log_of_lt hn, List.length_cons]; omega
    · next hn =>
      have hdiv : n / 10 < Nat.pow 10 fuel := by
        rw [Nat.div_lt_iff_lt_mul (by decide)]
        exact h
      have hfuel : 0 < fuel := by
        rcases fuel with _ | fuel
        · exact absurd h hn
        · exact Nat.succ_pos _
      have hlog : Nat.log 10 n = Nat.log 10 (n / 10) + 1 :=
        Nat.log_of_one_lt_of_le (by decide) (by omega)
      rw [ih hfuel hdiv, List.length_cons, hlog]
      omega

theorem lt_pow_log2 (n : Nat) : n < Nat.pow 10 (n.log2 + 1) :=
  Nat.lt_of_lt_of_le Nat.lt_log2_self (Nat.pow_le_pow_left (by decide) _)

theorem length_digits (n : Nat) : (digits n).length = Nat.log 10 n + 1 :=
  length_digitsOf (Nat.succ_pos _) (lt_pow_log2 n)

theorem leading_eq (d : Decimal) : d.leading = d.exponent + Nat.log 10 d.coefficient := by
  rw [leading, length_digits]
  omega

theorem leading_shift_one {d : Decimal} (h : d.coefficient ≠ 0) :
    (d.shift 1).leading = d.leading := by
  have hlog : Nat.log 10 (d.coefficient * 10) = Nat.log 10 d.coefficient + 1 :=
    Nat.log_mul_base (by decide) h
  have hcoef : (d.shift 1).coefficient = d.coefficient * 10 := rfl
  have hexp : (d.shift 1).exponent = d.exponent - 1 := rfl
  rw [leading_eq, leading_eq, hcoef, hlog, hexp]
  omega

theorem toNumber?_shift_one (negative : Bool) (d : Decimal) :
    (d.shift 1).toNumber? negative = d.toNumber? negative := by
  by_cases hzero : d.coefficient = 0
  · have hshift : (d.shift 1).coefficient = 0 := by rw [shift, hzero, Nat.zero_mul]
    simp only [toNumber?, hzero, hshift, true_or, if_true]
  have hcoef : (d.shift 1).coefficient = d.coefficient * 10 := rfl
  have hexp : (d.shift 1).exponent = d.exponent - 1 := rfl
  have hshift : d.coefficient * 10 ≠ 0 := Nat.mul_ne_zero hzero (by decide)
  simp only [toNumber?, leading_shift_one hzero, hcoef, hexp, hzero, hshift]
  -- The fraction that is read changes its form only where the exponent passes zero.
  rcases hd : d.exponent with (_ | e) | e
  · have hminus : Int.ofNat 0 - 1 = .negSucc 0 := rfl
    have hten : Nat.pow 10 (0 + 1) = 1 * 10 := rfl
    have hone : d.coefficient * Nat.pow 10 0 = d.coefficient := Nat.mul_one _
    simp only [hminus, hten, hone, Number.ofQuotient?_mul negative _ 1 (Nat.succ_pos 9)]
  · have hminus : Int.ofNat (e + 1) - 1 = .ofNat e := by simp
    have hprod : d.coefficient * 10 * Nat.pow 10 e = d.coefficient * Nat.pow 10 (e + 1) := by
      rw [Nat.mul_assoc, Nat.mul_comm 10]
      rfl
    simp only [hminus, hprod]
  · have hminus : Int.negSucc e - 1 = .negSucc (e + 1) := rfl
    have hquot : Number.ofQuotient? negative (d.coefficient * 10) (Nat.pow 10 (e + 1 + 1))
        = Number.ofQuotient? negative d.coefficient (Nat.pow 10 (e + 1)) :=
      Number.ofQuotient?_mul negative d.coefficient (Nat.pow 10 (e + 1)) (by decide)
    simp only [hminus, hquot]

theorem shift_succ (k : Nat) (d : Decimal) : d.shift (k + 1) = (d.shift k).shift 1 := by
  have hcoef :
      d.coefficient * Nat.pow 10 (k + 1) = d.coefficient * Nat.pow 10 k * Nat.pow 10 1 := by
    rw [Nat.mul_assoc]
    rfl
  have hexp : d.exponent - ((k + 1 : Nat) : Int) = d.exponent - k - (1 : Nat) := by omega
  simp only [shift, hcoef, hexp]

theorem toNumber?_shift (negative : Bool) (k : Nat) (d : Decimal) :
    (d.shift k).toNumber? negative = d.toNumber? negative := by
  induction k with
  | zero => simp [shift]
  | succ k ih => rw [shift_succ, toNumber?_shift_one, ih]

theorem toNumber?_trimOf (negative : Bool) (fuel c : Nat) (e : Int) :
    (trimOf fuel c e).toNumber? negative = (⟨c, e⟩ : Decimal).toNumber? negative := by
  induction fuel generalizing c e with
  | zero => rfl
  | succ fuel ih =>
    rw [trimOf]
    split
    · next hc =>
      have hshift : (⟨c, e⟩ : Decimal) = (⟨c / 10, e + 1⟩ : Decimal).shift 1 := by
        have hcoef : c = c / 10 * Nat.pow 10 1 :=
          (Nat.div_mul_cancel (Nat.dvd_of_mod_eq_zero hc)).symm
        have hexp : e = e + 1 - (1 : Nat) := by omega
        rw [shift, Decimal.mk.injEq]
        exact ⟨hcoef, hexp⟩
      rw [ih, hshift, toNumber?_shift_one]
    · rfl

theorem toNumber?_trim (negative : Bool) (d : Decimal) :
    d.trim.toNumber? negative = d.toNumber? negative := by
  rw [trim]
  split
  · next hzero => simp only [toNumber?, hzero, true_or, if_true]
  · exact toNumber?_trimOf negative _ _ _

end Decimal

namespace Number

theorem leading_exactDecimal {x : Number} (h : x.mantissa ≠ 0) :
    -330 ≤ (⟨x.steps * Nat.pow 5 1074, -1074⟩ : Decimal).leading ∧
      (⟨x.steps * Nat.pow 5 1074, -1074⟩ : Decimal).leading ≤ 310 := by
  have hlow : 744 ≤ Nat.log 10 (x.steps * Nat.pow 5 1074) := by
    apply Nat.le_log_of_pow_le (by decide)
    calc 10 ^ 744 ≤ Nat.pow 5 1074 := by decide +kernel
      _ ≤ x.steps * Nat.pow 5 1074 := Nat.le_mul_of_pos_left _ (steps_pos h)
  have hhigh : Nat.log 10 (x.steps * Nat.pow 5 1074) < 1384 := by
    apply Nat.log_lt_of_lt_pow
    · exact Nat.mul_ne_zero (Nat.ne_of_gt (steps_pos h)) (by decide +kernel)
    · apply steps_mul_lt x.exponent_le
      · decide +kernel
      · decide +kernel
  rw [Decimal.leading_eq]
  constructor <;> dsimp only <;> omega

theorem toNumber?_exactDecimal {x : Number} (h : x.mantissa ≠ 0) :
    x.exactDecimal.toNumber? x.negative = some x := by
  obtain ⟨hlow, hhigh⟩ := leading_exactDecimal h
  have hcoef : x.steps * Nat.pow 5 1074 ≠ 0 :=
    Nat.mul_ne_zero (Nat.ne_of_gt (steps_pos h)) (by decide +kernel)
  have hguard : ¬ (x.steps * Nat.pow 5 1074 = 0 ∨
      (⟨x.steps * Nat.pow 5 1074, -1074⟩ : Decimal).leading < -330) := by omega
  have hden : Nat.pow 10 (1073 + 1) = Nat.pow 5 1074 * Nat.pow 2 1074 := by decide +kernel
  have hpos : 0 < Nat.pow 5 1074 * Nat.pow 2 1074 := by decide +kernel
  have hexp : (-1074 : Int) = .negSucc 1073 := rfl
  rw [exactDecimal, Decimal.toNumber?_trim, Decimal.toNumber?, if_neg hguard, if_neg (by omega)]
  simp only [hexp, hden, ofQuotient?, Nat.mul_assoc]
  generalize Nat.pow 5 1074 * Nat.pow 2 1074 = k at hpos ⊢
  exact x.ofSteps?_exact hpos

theorem isReadFrom_of_onGrid? {tie : Tie} {x : Number} {e : Int} {d : Decimal}
    (h : x.onGrid? tie e = some d) : x.IsReadFrom d := by
  have hread := List.find?_some h
  exact of_decide_eq_true hread

/-- The shortest decimal of a number is read as the number, however ties are broken. -/
theorem isReadFrom_shortest (tie : Tie) (x : Number) : x.IsReadFrom (x.shortest tie) := by
  rw [IsReadFrom, shortest]
  split
  · next hzero => rw [eq_zero hzero]; rfl
  · next hzero =>
    dsimp only
    split
    · next d hfound =>
      obtain ⟨k, -, hgrid⟩ := List.exists_of_findSome?_eq_some hfound
      rw [Decimal.toNumber?_trim]
      exact isReadFrom_of_onGrid? hgrid
    · exact toNumber?_exactDecimal hzero

end Number

end Criteria
