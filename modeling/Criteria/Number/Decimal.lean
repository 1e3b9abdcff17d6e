import Criteria.Number
/-!
Decimal numbers beside binary ones. `Decimal.toNumber?` reads a decimal to the nearest number, and
`Number.shortest` finds the decimal with the fewest digits that reads back as the number.
-/

namespace Criteria

/-- The decimal `coefficient · 10 ^ exponent`. -/
structure Decimal where
  coefficient : Nat
  exponent : Int
  deriving DecidableEq

namespace Decimal

/-- The decimal digits of a natural number, the highest first, at most `fuel` of them. -/
def digitsOf : Nat → Nat → List Nat → List Nat
  | 0, _, later => later
  | fuel + 1, n, later =>
    if n < 10 then n :: later else digitsOf fuel (n / 10) (n % 10 :: later)

/-- The decimal digits of a natural number, the highest first; zero has one digit. -/
def digits (n : Nat) : List Nat := digitsOf (n.log2 + 1) n []

/-- The natural number that a row of digits spells. -/
def ofDigits (ds : List Nat) : Nat := ds.foldl (fun n d => 10 * n + d) 0

/-- Moves trailing zeros of the coefficient into the exponent, at most `fuel` of them. -/
def trimOf : Nat → Nat → Int → Decimal
  | 0, c, e => ⟨c, e⟩
  | fuel + 1, c, e => if c % 10 = 0 then trimOf fuel (c / 10) (e + 1) else ⟨c, e⟩

/-- The same decimal with a coefficient that does not end in zero. -/
def trim (d : Decimal) : Decimal :=
  if d.coefficient = 0 then ⟨0, 0⟩ else trimOf (d.coefficient.log2 + 1) d.coefficient d.exponent

/-- The power of ten of the leading digit. -/
def leading (d : Decimal) : Int := d.exponent + (digits d.coefficient).length - 1

/-- The number nearest to a decimal, or nothing when it is out of range. The first tests only spare
huge powers: no number reaches `10 ^ 310`, and below `10 ^ -330` all decimals round to zero. -/
def toNumber? (negative : Bool) (d : Decimal) : Option Number :=
  if d.coefficient = 0 ∨ d.leading < -330 then some .zero
  else if 310 < d.leading then none
  else match d.exponent with
    | .ofNat e => Number.ofQuotient? negative (d.coefficient * Nat.pow 10 e) 1
    | .negSucc e => Number.ofQuotient? negative d.coefficient (Nat.pow 10 (e + 1))

end Decimal

/-- Which of two decimals stands for a number in the middle between them. -/
inductive Tie where
  | upper
  | even
  deriving DecidableEq

/-- Whether the lower one does, of two neighbours with this coefficient and the next. -/
def Tie.takesLower (coefficient : Nat) : Tie → Bool
  | upper => false
  | even => coefficient % 2 = 0

namespace Number

/-- The decimal equal to the distance from zero. -/
def exactDecimal (x : Number) : Decimal :=
  Decimal.trim ⟨x.steps * Nat.pow 5 1074, -1074⟩

/-- The power of ten of the leading digit of a number that is not zero. -/
def leading (x : Number) : Int :=
  (Decimal.digits (x.steps * Nat.pow 10 400 / Nat.pow 2 1074)).length - 401

/-- Whether a decimal reads as this number, the sign apart. -/
def IsReadFrom (x : Number) (d : Decimal) : Prop := d.toNumber? x.negative = some x

instance (x : Number) (d : Decimal) : Decidable (x.IsReadFrom d) :=
  inferInstanceAs (Decidable (_ = _))

/-- The quotient of the distance from zero and a power of ten, as a fraction. -/
def fraction (x : Number) : Int → Nat × Nat
  | .ofNat e => (x.steps, Nat.pow 2 1074 * Nat.pow 10 e)
  | .negSucc e => (x.steps * Nat.pow 10 (e + 1), Nat.pow 2 1074)

/-- Of the two multiples of `10 ^ e` around the number, the nearer that reads back as it. -/
def onGrid? (tie : Tie) (x : Number) (e : Int) : Option Decimal :=
  let (num, den) := x.fraction e
  let lower : Decimal := ⟨num / den, e⟩
  let upper : Decimal := ⟨num / den + 1, e⟩
  let isLowerNearer :=
    2 * (num % den) < den || (2 * (num % den) = den && tie.takesLower lower.coefficient)
  let order := if isLowerNearer then [lower, upper] else [upper, lower]
  order.find? fun d => x.IsReadFrom d

/-- The decimal with the fewest digits that reads back as the number, the nearest of those. -/
def shortest (tie : Tie) (x : Number) : Decimal :=
  if x.mantissa = 0 then ⟨0, 0⟩
  else
    let top := x.leading
    match (List.range 17).findSome? fun (k : Nat) => x.onGrid? tie (top - k) with
    | some d => d.trim
    | none => x.exactDecimal

end Number

end Criteria
