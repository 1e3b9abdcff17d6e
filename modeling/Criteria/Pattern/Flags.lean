import Criteria.CharSet.Fold
import Criteria.CharSet.Property
import Criteria.Text.Blank
/-!
The flags that are in force at a place of a regular expression, and what they make of its
characters.
-/

namespace Criteria.Pattern

structure Flags where
  /-- Letters match in either case. -/
  ignoreCase : Bool := false
  /-- `^` and `$` match at lines. -/
  multiLine : Bool := false
  /-- The point matches line ends too. -/
  dotAll : Bool := false
  /-- Carriage returns end lines too. -/
  carriageReturn : Bool := false
  /-- Blanks and comments do not count. -/
  spaced : Bool := false
  /-- Classes cover ASCII only. -/
  ascii : Bool := false
  deriving DecidableEq

namespace Flags

/-- A flag set or cleared. The flag that turns greed around has no effect on what matches. -/
def set? (f : Flags) (on : Bool) : Char → Option Flags
  | 'i' => some { f with ignoreCase := on }
  | 'm' => some { f with multiLine := on }
  | 's' => some { f with dotAll := on }
  | 'R' => some { f with carriageReturn := on }
  | 'x' => some { f with spaced := on }
  | 'u' => some { f with ascii := !on }
  | 'U' => some f
  | _ => none

/-- Changes of flags up to a closing parenthesis or a colon, which is returned with the text after
it. Each flag may stand once, and a minus has to be followed by one. -/
def read? (f : Flags) (on : Bool) (seen : List Char) : List Char → Option (Flags × Char × List Char)
  | [] => none
  | c :: cs =>
    if c = ')' || c = ':' then if seen.head? = some '-' then none else some (f, c, cs)
    else if seen.contains c then none
    else if c = '-' then read? f false (c :: seen) cs
    else (f.set? on c).bind fun f => read? f on (c :: seen) cs

/-- Skips blanks and comments where they do not count. A comment goes to the end of the line. -/
def skip (f : Flags) (cs : List Char) : List Char := if f.spaced then go false cs else cs
where
  go (comment : Bool) : List Char → List Char
    | [] => []
    | c :: cs =>
      if comment then go (c ≠ '\n') cs
      else if Text.isBlank c then go false cs
      else if c = '#' then go true cs
      else c :: cs

/-- The characters that pass a test, blanks and comments among them skipped where they do not count,
and the text after them. -/
def span (f : Flags) (test : Char → Bool) (cs : List Char) : List Char × List Char :=
  if f.spaced then go false cs else cs.span test
where
  go (comment : Bool) : List Char → List Char × List Char
    | [] => ([], [])
    | c :: cs =>
      if comment then go (c ≠ '\n') cs
      else if Text.isBlank c then go false cs
      else if c = '#' then go true cs
      else if test c then
        let (taken, rest) := go false cs
        (c :: taken, rest)
      else ([], c :: cs)

/-- The characters that stand for those of a set. -/
def fold (f : Flags) (s : CharSet) : CharSet :=
  if !f.ignoreCase then s else if f.ascii then s.asciiFolded else s.folded

/-- The characters of words. -/
def word (f : Flags) : CharSet := if f.ascii then CharSet.ascii.inter .word else .word

/-- The complement of a set. Of a set of ASCII characters it would take half characters along, and
is refused. -/
def compl? (f : Flags) (s : CharSet) : Option CharSet := if f.ascii then none else some s.compl

/-- A set or its complement. -/
def signed? (f : Flags) (negated : Bool) (s : CharSet) : Option CharSet :=
  if negated then f.compl? s else some s

/-- The character that any single one stands for. -/
def point? (f : Flags) : Option CharSet :=
  if f.ascii then none
  else if f.dotAll then some .any
  else if f.carriageReturn then some (CharSet.union (.single '\n') (.single '\r')).compl
  else some (CharSet.single '\n').compl

end Flags

end Criteria.Pattern
