import Criteria.Date
import Criteria.Text.Blank
/-!
Reading days. A date value is either year, month and day with hyphens or a full timestamp, which
contributes its local day.
-/

namespace Criteria

/-- The first number of a text, of `least` to `most` digits. -/
def Text.number? (least most : Nat) (cs : List Char) : Option (Nat × List Char) :=
  let ds := (Spelling.spanDigits (cs.take most)).1
  if ds.length < least then none else some (Decimal.ofDigits ds, cs.drop ds.length)

/-- A fixed character at the start of a text. -/
def Text.expect? (c : Char) : List Char → Option (List Char)
  | d :: cs => if d = c then some cs else none
  | [] => none

namespace Date

/-- A year after blanks: up to four digits, or any number of them after a sign. -/
def year? (cs : List Char) : Option (Int × List Char) :=
  match Text.trimStart cs with
  | '-' :: cs => (Text.number? 1 cs.length cs).map fun (n, rest) => (-(n : Int), rest)
  | '+' :: cs => (Text.number? 1 cs.length cs).map fun (n, rest) => ((n : Int), rest)
  | cs => (Text.number? 1 4 cs).map fun (n, rest) => ((n : Int), rest)

/-- A number of one or two digits after blanks. -/
def twoDigits? (cs : List Char) : Option (Nat × List Char) := Text.number? 1 2 (Text.trimStart cs)

/-- Year, month and day with hyphens at the start of a text. With `spaced`, blanks may also stand
before the hyphens. -/
def hyphened? (spaced : Bool) (cs : List Char) : Option (Date × List Char) := do
  let blanks (cs : List Char) := if spaced then Text.trimStart cs else cs
  let (year, cs) ← year? cs
  let (month, cs) ← twoDigits? (← Text.expect? '-' (blanks cs))
  let (day, cs) ← twoDigits? (← Text.expect? '-' (blanks cs))
  return (← of? year month day, cs)

/-- A text that is all year, month and day with hyphens. -/
def plain? (cs : List Char) : Option Date :=
  match hyphened? false cs with
  | some (d, []) => some d
  | _ => none

end Date

/-- A time of day with nanoseconds; the last second of a minute may be a leap second, number 60. -/
structure Clock where
  hour : Nat
  minute : Nat
  second : Nat
  nanosecond : Nat
  deriving DecidableEq

namespace Clock

def of? (hour minute second nanosecond : Nat) : Option Clock :=
  if hour < 24 ∧ minute < 60 ∧ second ≤ 60 then some ⟨hour, minute, second, nanosecond⟩ else none

/-- A fraction of a second in nanoseconds after its point; digits after the ninth do not count. -/
def nanoseconds? (cs : List Char) : Option (Nat × List Char) := do
  let (n, rest) ← Text.number? 1 9 cs
  return (n * Nat.pow 10 (9 - (cs.length - rest.length)), (Spelling.spanDigits rest).2)

/-- An optional fraction of a second with its point. -/
def fraction? : List Char → Option (Nat × List Char)
  | '.' :: cs => nanoseconds? cs
  | cs => some (0, cs)

/-- The offset of a zone in minutes: `Z`, or a sign, two digits for hours and two for minutes.
`separate` removes what stands between hours and minutes. -/
def offset? (separate : List Char → Option (List Char)) : List Char → Option (Int × List Char)
  | [] => none
  | c :: cs =>
    if c = 'Z' ∨ c = 'z' then some (0, cs)
    else if c = '+' ∨ c = '-' ∨ c = '\u2212' then do
      let (hours, cs) ← Text.number? 2 2 cs
      let (minutes, cs) ← Text.number? 2 2 (← separate cs)
      if 60 ≤ minutes ∨ 24 ≤ hours then failure
      let n : Int := 60 * hours + minutes
      return (if c = '+' then n else -n, cs)
    else none

end Clock

namespace Date

/-- The local day of a timestamp in strict form: fixed widths, no blanks but one in place of the
letter between day and time. -/
def ofStrictTimestamp? (cs : List Char) : Option Date := do
  let (year, cs) ← Text.number? 4 4 cs
  let (month, cs) ← Text.number? 2 2 (← Text.expect? '-' cs)
  let (day, cs) ← Text.number? 2 2 (← Text.expect? '-' cs)
  let c :: cs := cs | failure
  if c ≠ 'T' ∧ c ≠ 't' ∧ c ≠ ' ' then failure
  let (hour, cs) ← Text.number? 2 2 cs
  let (minute, cs) ← Text.number? 2 2 (← Text.expect? ':' cs)
  let (second, cs) ← Text.number? 2 2 (← Text.expect? ':' cs)
  let (nanosecond, cs) ← Clock.fraction? cs
  let (_, rest) ← Clock.offset? (Text.expect? ':') cs
  let _ ← Clock.of? hour minute second nanosecond
  if rest.isEmpty then of? year month day else failure

/-- The day that a text denotes, blanks around it apart. -/
def parse? (s : String) : Option Date :=
  let cs := Text.trim s.toList
  (plain? cs).or (ofStrictTimestamp? cs)

end Date

end Criteria
