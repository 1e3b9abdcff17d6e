import Criteria.CharSet.Query
import Criteria.Pattern
import Criteria.Pattern.Flags
/-!
What a backslash in a regular expression makes of the characters after it.
-/

namespace Criteria.Pattern

inductive Escape where
  | char (c : Char)
  | set (s : CharSet)
  | anchor (a : Anchor)

namespace Escape

/-- The sets of digits, blanks and word characters, and their complements in upper case. -/
def shorthand? (f : Flags) (c : Char) : Option CharSet :=
  let set := match c.toLower with
    | 'd' => CharSet.digit
    | 's' => .blank
    | _ => .word
  f.signed? c.isUpper (if f.ascii then CharSet.ascii.inter set else set)

/-- A property after its letter: one more letter, or a name in braces. -/
def property? (f : Flags) (negated : Bool) (cs : List Char) : Option (CharSet × List Char) :=
  if f.ascii then none
  else
    match f.skip cs with
    | [] | '\\' :: _ => none
    | '\x7b' :: cs =>
      match f.span (· ≠ '\x7d') (f.skip cs) with
      | (name, _ :: rest) => (finish (CharSet.ofQuery? name)).map (·, rest)
      | (_, []) => none
    | c :: cs => (finish (CharSet.ofName? [c])).map (·, cs)
where
  finish (s : Option CharSet) : Option CharSet := s.bind fun s => f.signed? negated (f.fold s)

def hexDigit? (c : Char) : Option Nat :=
  if c.isDigit then some (c.toNat - '0'.toNat)
  else if 'a' ≤ c ∧ c ≤ 'f' then some (c.toNat - 'a'.toNat + 10)
  else if 'A' ≤ c ∧ c ≤ 'F' then some (c.toNat - 'A'.toNat + 10)
  else none

/-- The character that hexadecimal digits number. -/
def hexChar? (cs : List Char) : Option Char := do
  let digits ← cs.mapM hexDigit?
  if digits.isEmpty then failure
  let n := digits.foldl (fun n d => 16 * n + d) 0
  if n < 0xD800 ∨ (0xDFFF < n ∧ n < 0x110000) then return Char.ofNat n else failure

/-- So many characters, with what is skipped after each. -/
def take? (f : Flags) : Nat → List Char → Option (List Char × List Char)
  | 0, cs => some ([], cs)
  | _ + 1, [] => none
  | n + 1, c :: cs => (take? f n (f.skip cs)).map fun (taken, rest) => (c :: taken, rest)

/-- A character by number: so many digits, or any number of them in braces. Two digits are a byte
where classes cover ASCII only, and one above ASCII is refused there. -/
def numbered? (f : Flags) (width : Nat) (cs : List Char) : Option (Char × List Char) :=
  match f.skip cs with
  | '\x7b' :: cs =>
    match f.span (· ≠ '\x7d') (f.skip cs) with
    | (digits, _ :: rest) => (hexChar? digits).map (·, rest)
    | (_, []) => none
  | cs => do
    let (digits, rest) ← take? f width cs
    let c ← hexChar? digits
    if f.ascii && width = 2 && 128 ≤ c.toNat then failure
    return (c, rest)

/-- The kinds of word boundary by their names in braces. -/
def boundaries : List (List Char × Anchor) :=
  [("start".toList, .wordStart), ("end".toList, .wordEnd), ("start-half".toList, .wordStartHalf),
    ("end-half".toList, .wordEndHalf)]

/-- A word boundary after its letter. Braces that begin with anything but a letter or a hyphen hold
no name. -/
def boundary? (f : Flags) : List Char → Option (Anchor × List Char)
  | '\x7b' :: cs =>
    match f.span (fun c => c.isAlpha || c = '-') (f.skip cs) with
    | ([], _) => some (.wordBoundary, '\x7b' :: cs)
    | (name, '\x7d' :: rest) => (boundaries.find? (·.1 = name)).map fun (_, a) => (a, rest)
    | _ => none
  | cs => some (.wordBoundary, cs)

/-- An escape after its backslash. -/
def read? (f : Flags) : List Char → Option (Escape × List Char)
  | [] => none
  | c :: cs =>
    match c with
    | 'd' | 's' | 'w' | 'D' | 'S' | 'W' => (shorthand? f c).map fun s => (.set s, cs)
    | 'p' => (property? f false cs).map fun (s, cs) => (.set s, cs)
    | 'P' => (property? f true cs).map fun (s, cs) => (.set s, cs)
    | 'x' => (numbered? f 2 cs).map fun (c, cs) => (.char c, cs)
    | 'u' => (numbered? f 4 cs).map fun (c, cs) => (.char c, cs)
    | 'U' => (numbered? f 8 cs).map fun (c, cs) => (.char c, cs)
    | 'a' => some (.char '\x07', cs)
    | 'f' => some (.char '\x0c', cs)
    | 't' => some (.char '\t', cs)
    | 'n' => some (.char '\n', cs)
    | 'r' => some (.char '\r', cs)
    | 'v' => some (.char '\x0b', cs)
    | 'A' => some (.anchor .textStart, cs)
    | 'z' => some (.anchor .textEnd, cs)
    | 'b' => (boundary? f cs).map fun (a, cs) => (.anchor a, cs)
    | 'B' => some (.anchor .notWordBoundary, cs)
    | '<' => some (.anchor .wordStart, cs)
    | '>' => some (.anchor .wordEnd, cs)
    | c => if c.toNat < 128 ∧ ¬ c.isAlphanum then some (.char c, cs) else none

end Escape

end Criteria.Pattern
