import Criteria.Date
import Criteria.Text.Blank
/-!
Days under a pattern of `%` specifiers. A pattern with an unknown, unfinished or time-of-day
specifier renders nothing, and the caller falls back to another form.
-/

namespace Criteria.Date

/-- How a number is filled up to its width. -/
inductive Padding where
  | none
  | zero
  | space
  deriving DecidableEq

namespace Padding

/-- Digits filled up to a width. -/
def fill (p : Padding) (width : Nat) (ds : List Char) : List Char :=
  match p with
  | .none => ds
  | .zero => List.replicate (width - ds.length) '0' ++ ds
  | .space => List.replicate (width - ds.length) ' ' ++ ds

/-- A number below 256 in two places, the first of them the character that lies its tens after
`'0'`. -/
def two (p : Padding) (n : Nat) : List Char :=
  let ones := Decimal.digitChar (n % 10)
  if n < 10 then
    match p with
    | .none => [ones]
    | .zero => ['0', ones]
    | .space => [' ', ones]
  else [Decimal.digitChar (n / 10), ones]

/-- A year in four places, with a sign outside of 0 to 9999. -/
def year (p : Padding) (y : Int) : List Char :=
  let ds := Decimal.natChars y.natAbs
  if 0 ≤ y ∧ y ≤ 9999 then p.fill 4 ds
  else
    let sign := if y < 0 then '-' else '+'
    match p with
    | .space => Padding.space.fill 5 (sign :: ds)
    | p => sign :: p.fill 4 ds

end Padding

def weekdayName : Nat → String
  | 0 => "Monday"
  | 1 => "Tuesday"
  | 2 => "Wednesday"
  | 3 => "Thursday"
  | 4 => "Friday"
  | 5 => "Saturday"
  | _ => "Sunday"

def monthName : Nat → String
  | 1 => "January"
  | 2 => "February"
  | 3 => "March"
  | 4 => "April"
  | 5 => "May"
  | 6 => "June"
  | 7 => "July"
  | 8 => "August"
  | 9 => "September"
  | 10 => "October"
  | 11 => "November"
  | _ => "December"

/-- A numeric specifier: its padding where none is asked for, and its text under a padding. -/
def numeric? (d : Date) (c : Char) : Option (Padding × (Padding → List Char)) :=
  let two (n : Int) : Option (Padding × (Padding → List Char)) :=
    some (.zero, fun p => p.two (n % 256).toNat)
  match c with
  | 'Y' => some (.zero, fun p => p.year d.year)
  | 'G' => some (.zero, fun p => p.year d.isoWeek.1)
  | 'C' => two (d.year / 100)
  | 'y' => two (d.year % 100)
  | 'g' => two (d.isoWeek.1 % 100)
  | 'm' => two d.month
  | 'd' => two d.day
  | 'e' => some (.space, fun p => p.two d.day)
  | 'U' => two d.weekFromSunday
  | 'W' => two d.weekFromMonday
  | 'V' => two d.isoWeek.2
  | 'j' => some (.zero, fun p => p.fill 3 (Decimal.natChars d.ordinal))
  | 'q' => some (.zero, fun _ => Decimal.natChars ((d.month + 2) / 3))
  | 'u' => some (.zero, fun _ => Decimal.natChars (d.weekday + 1))
  | 'w' => some (.zero, fun _ => Decimal.natChars ((d.weekday + 1) % 7))
  | _ => none

def shortName (s : String) : List Char := s.toList.take 3

/-- A specifier that takes no padding. -/
def plain (d : Date) (c : Char) : Option (List Char) :=
  match c with
  | 'A' => some (weekdayName d.weekday).toList
  | 'a' => some (shortName (weekdayName d.weekday))
  | 'B' => some (monthName d.month).toList
  | 'b' | 'h' => some (shortName (monthName d.month))
  | 'D' | 'x' =>
    some (padded 2 d.month ++ '/' :: padded 2 d.day ++ '/' :: padded 2 (d.year % 100).toNat)
  | 'F' => some d.isoChars
  | 'v' =>
    some (Padding.space.two d.day ++ '-' :: shortName (monthName d.month) ++ '-'
      :: yearChars d.year)
  | '%' => some ['%']
  | 'n' => some ['\n']
  | 't' => some ['\t']
  | _ => none

def padding? : Char → Option Padding
  | '-' => some .none
  | '0' => some .zero
  | '_' => some .space
  | _ => none

/-- The day under a pattern. -/
def underPattern? (d : Date) : List Char → Option (List Char)
  | [] => some []
  | '%' :: c :: cs =>
    match padding? c, cs with
    | some p, c :: cs => do
      let (_, text) ← d.numeric? c
      return text p ++ (← underPattern? d cs)
    | some _, [] => none
    | none, cs => do
      let text ← match d.numeric? c with
        | some (p, text) => some (text p)
        | none => d.plain c
      return text ++ (← underPattern? d cs)
  | ['%'] => none
  | c :: cs => (underPattern? d cs).map (c :: ·)

/-- The day under a pattern, or in its plain form if the pattern is no good. -/
def format (pattern : String) (d : Date) : String :=
  match d.underPattern? pattern.toList with
  | some cs => String.ofList cs
  | none => d.iso

end Criteria.Date
