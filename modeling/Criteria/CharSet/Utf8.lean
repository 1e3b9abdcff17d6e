import Criteria.CharSet
/-!
The texts of one character in UTF-8, as bytes. The characters of a set are written as sequences of
byte ranges; the sequences that begin alike or go on alike can share their parts.
-/

namespace Criteria.CharSet

/-- A range of bytes. -/
structure ByteRange where
  first : Nat
  last : Nat
  deriving DecidableEq

/-- Byte ranges one after another. -/
abbrev ByteSequence := List ByteRange

/-- A byte after the first one of a character. -/
def continuation : ByteRange := ⟨0x80, 0xBF⟩

/-- The numbers from `low` to `high` in so many digits to the base 64 after a leading one, as few
sequences that in each place take a range. `lead` is added to the leading digit. -/
def digitSequences : Nat → Nat → Nat → Nat → List ByteSequence
  | 0, lead, low, high => [[⟨lead + low, lead + high⟩]]
  | places + 1, lead, low, high =>
    let unit := Nat.pow 64 (places + 1)
    let (a, x) := (low / unit, low % unit)
    let (b, y) := (high / unit, high % unit)
    let under (digit low high : Nat) : List ByteSequence :=
      (digitSequences places 0x80 low high).map (⟨lead + digit, lead + digit⟩ :: ·)
    if a = b then under a x y
    else
      let start := if x = 0 then a else a + 1
      let stop := if y = unit - 1 then b + 1 else b
      (if x = 0 then [] else under a x (unit - 1)) ++
        (if start < stop then
          [⟨lead + start, lead + stop - 1⟩ :: List.replicate (places + 1) continuation]
        else []) ++
        if y = unit - 1 then [] else under b 0 y

/-- The code points by the length of their texts: the first and the last, the number of continuation
bytes, and what the first byte adds. -/
def lengthBlocks : List (Nat × Nat × Nat × Nat) :=
  [(0, 0x7F, 0, 0), (0x80, 0x7FF, 1, 0xC0), (0x800, 0xD7FF, 2, 0xE0), (0xE000, 0xFFFF, 2, 0xE0),
    (0x10000, 0x10FFFF, 3, 0xF0)]

/-- The sequences for a run of code points. -/
def runSequences (r : CharRun) : List ByteSequence :=
  lengthBlocks.flatMap fun (first, last, places, lead) =>
    let low := max first r.first
    let high := min last r.last
    if low ≤ high then digitSequences places lead low high else []

/-- The sequences for a set, in order. -/
def sequences (s : CharSet) : List ByteSequence := s.runs.flatMap runSequences

/-- The ranges that ordered sequences begin with, with what follows each. -/
def branches : List ByteSequence → List (ByteRange × List ByteSequence)
  | [] => []
  | [] :: rest => branches rest
  | (r :: tail) :: rest =>
    match branches rest with
    | (q, tails) :: others =>
      if q = r then (r, tail :: tails) :: others else (r, [tail]) :: (q, tails) :: others
    | [] => [(r, [tail])]

/-- What can follow after so many steps at most from one of these places, each once. A place is
known by the sequences that lead on from it. -/
def places : Nat → List (List ByteSequence) → List (List ByteSequence)
  | 0, _ => []
  | steps + 1, here =>
    let next := (here.flatMap fun tails => (branches tails).map (·.2)).filter (· ≠ [[]])
    here ++ places steps next.eraseDups

/-- The places of the smallest graph that reads the characters of a set byte by byte. -/
def graph (s : CharSet) : List (List ByteSequence) := (places 4 [s.sequences]).eraseDups

/-- The number of different beginnings of ordered sequences, those of a sequence before them not
counted again. -/
def beginnings : ByteSequence → List ByteSequence → Nat
  | _, [] => 0
  | previous, q :: rest =>
    let shared := ((previous.zip q).takeWhile fun (a, b) => a = b).length
    q.length - shared + beginnings q rest

end Criteria.CharSet
