/-!
Finite binary64 numbers, held exactly as a sign, a mantissa and an exponent. Every number is a whole
multiple of the least positive one, `2 ^ -1074`; order and equality are those of the multiples, and
rounding goes to the nearest number with ties to the even mantissa.
-/

namespace Criteria

/-- A finite binary64 number `± mantissa · 2 ^ (exponent - 1074)` in its only form: the mantissa has
all its 53 bits unless the exponent is least, and zero has no sign. -/
structure Number where
  negative : Bool
  mantissa : Nat
  exponent : Nat
  mantissa_lt : mantissa < Nat.pow 2 53
  exponent_le : exponent ≤ 2045
  normal : exponent = 0 ∨ Nat.pow 2 52 ≤ mantissa
  unsigned_zero : negative = true → mantissa ≠ 0
  deriving DecidableEq

namespace Number

/-- The number of least steps `2 ^ -1074` in the distance from zero. -/
def steps (x : Number) : Nat := x.mantissa * Nat.pow 2 x.exponent

/-- The number as a whole multiple of `2 ^ -1074`. -/
def units (x : Number) : Int := if x.negative then -(x.steps : Int) else x.steps

instance : LT Number := ⟨fun x y => x.units < y.units⟩
instance : LE Number := ⟨fun x y => x.units ≤ y.units⟩
instance (x y : Number) : Decidable (x < y) := inferInstanceAs (Decidable (x.units < y.units))
instance (x y : Number) : Decidable (x ≤ y) := inferInstanceAs (Decidable (x.units ≤ y.units))

/-- The quotient of two whole numbers, rounded to a whole number; a half goes to the even one. -/
def roundEven (num den : Nat) : Nat :=
  let q := num / den
  let r := num % den
  if 2 * r < den then q else if den < 2 * r then q + 1 else q + q % 2

/-- The number with these parts, if they are in range. A sign on zero is dropped. -/
def ofParts? (negative : Bool) (mantissa exponent : Nat) : Option Number :=
  if h : mantissa < Nat.pow 2 53 ∧ exponent ≤ 2045 ∧ (exponent = 0 ∨ Nat.pow 2 52 ≤ mantissa) then
    some ⟨negative && mantissa != 0, mantissa, exponent, h.1, h.2.1, h.2.2, by simp⟩
  else none

/-- The number nearest to `num / den` least steps, or nothing when that is out of range. -/
def ofSteps? (negative : Bool) (num den : Nat) : Option Number :=
  let exponent := (num / den).log2 - 52
  let mantissa := roundEven num (den * Nat.pow 2 exponent)
  if mantissa = Nat.pow 2 53 then ofParts? negative (Nat.pow 2 52) (exponent + 1)
  else ofParts? negative mantissa exponent

/-- The number nearest to the quotient `num / den`. -/
def ofQuotient? (negative : Bool) (num den : Nat) : Option Number :=
  ofSteps? negative (num * Nat.pow 2 1074) den

/-- The number nearest to a whole number. -/
def ofInt? (n : Int) : Option Number := ofQuotient? (n < 0) n.natAbs 1

/-- The product, rounded once. -/
def mul? (x y : Number) : Option Number :=
  ofSteps? (x.negative != y.negative) (x.steps * y.steps) (Nat.pow 2 1074)

/-- The quotient, rounded once; the divisor is not zero. -/
def div? (x y : Number) : Option Number :=
  ofSteps? (x.negative != y.negative) (x.steps * Nat.pow 2 1074) y.steps

def zero : Number := ⟨false, 0, 0, by decide, by decide, .inl rfl, by simp⟩

instance : Inhabited Number := ⟨zero⟩

/-- The number with the other sign. -/
def neg (x : Number) : Number :=
  { x with
    negative := !x.negative && x.mantissa != 0
    unsigned_zero := by simp }

/-- The whole number that this number is, if it is one. -/
def toInt? (x : Number) : Option Int :=
  if x.steps % Nat.pow 2 1074 = 0 then
    let n : Nat := x.steps / Nat.pow 2 1074
    some (if x.negative then -(n : Int) else n)
  else none

/-- Whole numbers below nine quadrillion are written as integers. -/
def integer? (x : Number) : Option Int :=
  x.toInt?.filter (·.natAbs < 9 * Nat.pow 10 15)

end Number

end Criteria
