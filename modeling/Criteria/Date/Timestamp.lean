import Criteria.Date.Reader
/-!
Points in time, held in universal time to the nanosecond. Reading allows blanks between the parts
and any offset of less than a day; writing has one form.
-/

namespace Criteria

/-- A point in universal time. -/
structure Timestamp where
  date : Date
  clock : Clock
  deriving DecidableEq

namespace Timestamp

/-- The point in universal time of a local day and time at an offset in minutes. -/
def ofLocal? (date : Date) (clock : Clock) (offset : Int) : Option Timestamp := do
  let minutes := 60 * (clock.hour : Int) + clock.minute - offset
  let date ←
    if minutes < 0 then date.previous? else if 1440 ≤ minutes then date.next? else some date
  let minute := (minutes % 1440).toNat
  return ⟨date, { clock with hour := minute / 60, minute := minute % 60 }⟩

/-- The offset of a zone: `UTC` in any case, `Z`, or hours and minutes with colons and blanks
between them. -/
def zone? (cs : List Char) : Option (Int × List Char) :=
  if (cs.take 3).map Char.toUpper = ['U', 'T', 'C'] then some (0, cs.drop 3)
  else Clock.offset? (fun cs => some (cs.dropWhile fun c => c = ':' || Text.isBlank c)) cs

/-- Reads a whole text as a point in time. -/
def ofChars? (cs : List Char) : Option Timestamp := do
  let (date, cs) ← Date.hyphened? true cs
  let c :: cs := cs | failure
  if c ≠ 'T' ∧ c ≠ 't' ∧ c ≠ ' ' then failure
  let (hour, cs) ← Date.twoDigits? cs
  let (minute, cs) ← Date.twoDigits? (← Text.expect? ':' (Text.trimStart cs))
  let (second, cs) ← Date.twoDigits? (← Text.expect? ':' (Text.trimStart cs))
  let (nanosecond, cs) ← Clock.fraction? cs
  let (offset, rest) ← zone? (Text.trimStart cs)
  let clock ← Clock.of? hour minute second nanosecond
  if (Text.trimStart rest).isEmpty then ofLocal? date clock offset else failure

def ofText? (s : String) : Option Timestamp := ofChars? s.toList

/-- The number of the day on which the seconds of a clock start to count, the first of 1970. -/
def epochDay : Int := 719162

/-- The point some seconds after the start of 1970. -/
def ofSeconds? (seconds : Int) (nanosecond : Nat) : Option Timestamp := do
  let date ← Date.ofDayNumber? (epochDay + seconds / 86400)
  let second := (seconds % 86400).toNat
  let clock ← Clock.of? (second / 3600) (second / 60 % 60) (second % 60) nanosecond
  return ⟨date, clock⟩

/-- The fraction of a second in as many groups of three digits as it needs. -/
def fractionChars (nanosecond : Nat) : List Char :=
  if nanosecond = 0 then []
  else if nanosecond % 1000000 = 0 then '.' :: Date.padded 3 (nanosecond / 1000000)
  else if nanosecond % 1000 = 0 then '.' :: Date.padded 6 (nanosecond / 1000)
  else '.' :: Date.padded 9 nanosecond

def chars (t : Timestamp) : List Char :=
  t.date.isoChars ++ 'T' :: Date.padded 2 t.clock.hour ++ ':' :: Date.padded 2 t.clock.minute
    ++ ':' :: Date.padded 2 t.clock.second ++ fractionChars t.clock.nanosecond ++ ['Z']

def text (t : Timestamp) : String := String.ofList t.chars

end Timestamp

end Criteria
