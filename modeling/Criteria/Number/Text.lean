import Criteria.Number.Decimal
/-!
Numbers as text. Writing places the shortest digits by a `Layout`; reading accepts an optional sign,
digits with an optional point, and an optional exponent, and rounds to the nearest number.
-/

namespace Criteria

/-- How the digits of a number that is no plain integer are laid out. -/
structure Layout where
  /-- Least power of ten of the leading digit that is written without an exponent. -/
  positionalFrom : Option Int
  /-- The power of ten of the leading digit from which on an exponent is written. -/
  positionalTo : Option Int
  /-- Whether a whole number gets the fraction `.0`. -/
  wholeFraction : Bool
  tie : Tie

namespace Layout

/-- Text output never uses an exponent and leaves whole numbers bare. A tie goes to the upper
decimal. -/
def plain : Layout := ⟨none, none, false, .upper⟩

/-- JSON output has a fraction or an exponent on every number that is no integer literal, and an
exponent below `10 ^ -5` and from `10 ^ 16` on. A tie goes to the even decimal. -/
def json : Layout := ⟨some (-5), some 16, true, .even⟩

def isPositional (l : Layout) (leading : Int) : Bool :=
  l.positionalFrom.all (· ≤ leading) && l.positionalTo.all (leading < ·)

end Layout

namespace Decimal

def digitChar (d : Nat) : Char := Char.ofNat ('0'.toNat + d)

/-- A row of digits as characters. -/
def chars (ds : List Nat) : List Char := ds.map digitChar

/-- The decimal digits of a natural number as characters. -/
def natChars (n : Nat) : List Char := chars (digits n)

/-- The decimal digits of a natural number as text. -/
def natText (n : Nat) : String := String.ofList (natChars n)

/-- A whole number with its sign. -/
def intChars : Int → List Char
  | .ofNat n => natChars n
  | .negSucc n => '-' :: natChars (n + 1)

/-- Digits around a point that stands after the first `whole` of them. -/
def positional (wholeFraction : Bool) (ds : List Char) (whole : Int) : List Char :=
  if whole ≤ 0 then
    ['0', '.'] ++ List.replicate whole.natAbs '0' ++ ds
  else
    let n := whole.toNat
    if ds.length ≤ n then
      ds ++ List.replicate (n - ds.length) '0' ++ (if wholeFraction then ['.', '0'] else [])
    else ds.take n ++ '.' :: ds.drop n

/-- Digits with a point after the first and a signed exponent. -/
def scientific (ds : List Char) (leading : Int) : List Char :=
  let fraction := if ds.length ≤ 1 then [] else '.' :: ds.drop 1
  let exponent := if leading < 0 then intChars leading else '+' :: intChars leading
  ds.take 1 ++ fraction ++ 'e' :: exponent

/-- The decimal laid out as text, without a sign. -/
def layOut (l : Layout) (d : Decimal) : List Char :=
  let ds := natChars d.coefficient
  if l.isPositional d.leading then positional l.wholeFraction ds (d.leading + 1)
  else scientific ds d.leading

end Decimal

namespace Number

/-- The shortest digits of the number laid out as text. -/
def layOut (l : Layout) (x : Number) : List Char :=
  let body := (x.shortest l.tie).layOut l
  if x.negative then '-' :: body else body

/-- The number as text: an integer when it is a small whole number, else the shortest digits. -/
def text (x : Number) : String :=
  String.ofList <| match x.integer? with
    | some n => Decimal.intChars n
    | none => x.layOut .plain

end Number

/-- A decimal as it is spelled: sign, digits before and after the point, and exponent. -/
structure Spelling where
  negative : Bool
  whole : List Nat
  fraction : List Nat
  exponent : Int
  deriving DecidableEq

namespace Spelling

/-- The decimal that is spelled, its sign apart. -/
def decimal (s : Spelling) : Decimal :=
  ⟨Decimal.ofDigits (s.whole ++ s.fraction), s.exponent - s.fraction.length⟩

/-- The value of a digit character. -/
def digit? (c : Char) : Option Nat :=
  if '0' ≤ c ∧ c ≤ '9' then some (c.toNat - '0'.toNat) else none

/-- The digits at the head of a text, and what follows them. -/
def spanDigits : List Char → List Nat × List Char
  | [] => ([], [])
  | c :: cs =>
    match digit? c with
    | some d => let (ds, rest) := spanDigits cs; (d :: ds, rest)
    | none => ([], c :: cs)

/-- A sign at the head of a text, and what follows it. -/
def spanSign : List Char → Bool × List Char
  | '-' :: cs => (true, cs)
  | '+' :: cs => (false, cs)
  | cs => (false, cs)

/-- The exponent that makes up the rest of a text; an empty text is the exponent zero. -/
def exponent? : List Char → Option Int
  | [] => some 0
  | c :: cs =>
    if c = 'e' ∨ c = 'E' then
      let (negative, cs) := spanSign cs
      match spanDigits cs with
      | ([], _) => none
      | (ds, []) => some (if negative then -(Decimal.ofDigits ds : Int) else Decimal.ofDigits ds)
      | (_, _ :: _) => none
    else none

/-- Reads a whole text as a decimal. -/
def ofChars? (cs : List Char) : Option Spelling :=
  let (negative, cs) := spanSign cs
  let (whole, cs) := spanDigits cs
  let (fraction, cs) := match cs with
    | '.' :: cs => spanDigits cs
    | cs => ([], cs)
  if whole.isEmpty && fraction.isEmpty then none
  else (exponent? cs).map (⟨negative, whole, fraction, ·⟩)

end Spelling

namespace Number

/-- The number that a text spells, rounded to nearest. Nothing for a text that spells none, and for
one out of range. -/
def ofChars? (cs : List Char) : Option Number :=
  (Spelling.ofChars? cs).bind fun s => s.decimal.toNumber? s.negative

end Number

end Criteria
