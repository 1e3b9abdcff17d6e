/-!
Sets of characters as stretches of code points. The stretches stand in order, and between two of
them lies a character that is not in the set, so equal sets have equal stretches.
-/

namespace Criteria

/-- The code points from one to another, both included. -/
structure CharRun where
  first : Nat
  last : Nat
  deriving DecidableEq

namespace CharRun

def mem (r : CharRun) (n : Nat) : Bool := r.first ≤ n && n ≤ r.last

end CharRun

/-- The code point of the next character. Surrogates are no characters. -/
def nextPoint (n : Nat) : Nat := if n = 0xD7FF then 0xE000 else n + 1

/-- The code point of the character before. -/
def previousPoint (n : Nat) : Nat := if n = 0xE000 then 0xD7FF else n - 1

/-- The greatest code point. -/
def lastPoint : Nat := 0x10FFFF

structure CharSet where
  runs : List CharRun
  deriving DecidableEq

namespace CharSet

def mem (s : CharSet) (c : Char) : Bool := s.runs.any (·.mem c.toNat)

def empty : CharSet := ⟨[]⟩

def isEmpty (s : CharSet) : Bool := s.runs.isEmpty

/-- Joins a run with those of the ordered runs after it that touch it. -/
def join (r : CharRun) : List CharRun → List CharRun
  | [] => [r]
  | q :: qs =>
    if q.first ≤ nextPoint r.last then join ⟨r.first, max r.last q.last⟩ qs else r :: join q qs

/-- The set of runs that are ordered by their first code points. -/
def ofOrdered : List CharRun → CharSet
  | [] => empty
  | r :: rs => ⟨join r rs⟩

/-- The set of runs in any order. -/
def ofRuns (rs : List CharRun) : CharSet := ofOrdered (rs.mergeSort fun a b => a.first ≤ b.first)

/-- The characters from one to another. -/
def range (first last : Char) : CharSet := ⟨[⟨first.toNat, last.toNat⟩]⟩

def single (c : Char) : CharSet := range c c

def any : CharSet := ⟨[⟨0, lastPoint⟩]⟩

def ascii : CharSet := range '\x00' '\x7f'

def union (a b : CharSet) : CharSet :=
  ofOrdered (a.runs.merge b.runs fun p q => p.first ≤ q.first)

/-- The runs between those of a set, from a code point on. -/
def gaps (start : Nat) : List CharRun → List CharRun
  | [] => if start ≤ lastPoint then [⟨start, lastPoint⟩] else []
  | r :: rs =>
    if start < r.first then ⟨start, previousPoint r.first⟩ :: gaps (nextPoint r.last) rs
    else gaps (nextPoint r.last) rs

def compl (s : CharSet) : CharSet := ⟨gaps 0 s.runs⟩

def inter (a b : CharSet) : CharSet := (a.compl.union b.compl).compl

/-- The characters in one set and not in the other. -/
def diff (a b : CharSet) : CharSet := (a.compl.union b).compl

/-- The characters in just one of two sets. -/
def symmDiff (a b : CharSet) : CharSet := (a.diff b).union (b.diff a)

def isAscii (s : CharSet) : Bool := s.runs.all (·.last < 128)

/-- The character of a set with just one. -/
def only? (s : CharSet) : Option Char :=
  match s.runs with
  | [r] => if r.first = r.last then some (Char.ofNat r.first) else none
  | _ => none

/-- The value of a hexadecimal digit in upper case. -/
def hexDigit (c : Char) : Nat :=
  if c ≤ '9' then c.toNat - '0'.toNat else c.toNat - 'A'.toNat + 10

/-- The number that hexadecimal digits in upper case spell. -/
def hexNumber (cs : List Char) : Nat := cs.foldl (fun n c => 16 * n + hexDigit c) 0

/-- The run that a word of a table stands for: a code point, or two with a hyphen between them. -/
def wordRun (word : String) : CharRun :=
  let cs := word.toList
  let first := hexNumber (cs.takeWhile (· ≠ '-'))
  match cs.dropWhile (· ≠ '-') with
  | [] => ⟨first, first⟩
  | _ :: last => ⟨first, hexNumber last⟩

/-- The words of a table. -/
def words (lines : List String) : List String :=
  (lines.flatMap (·.splitOn " ")).filter (!·.isEmpty)

/-- The set that a table of ordered runs lists. -/
def ofTable (lines : List String) : CharSet := ofOrdered ((words lines).map wordRun)

/-- Runs that together cover all code points, each by its first code point and a label of a fixed
length after it. -/
def labelled (width : Nat) (lines : List String) : List (String × CharRun) :=
  cover ((words lines).map fun word =>
    let cs := word.toList
    let (digits, label) := cs.splitAt (cs.length - width)
    (String.ofList label, hexNumber digits))
where
  cover : List (String × Nat) → List (String × CharRun)
    | [] => []
    | [(label, first)] => [(label, ⟨first, lastPoint⟩)]
    | (label, first) :: (next, start) :: rest =>
      (label, ⟨first, start - 1⟩) :: cover ((next, start) :: rest)

/-- The set of the runs whose label passes a test. -/
def ofLabelled (runs : List (String × CharRun)) (test : String → Bool) : CharSet :=
  ofOrdered ((runs.filter fun r => test r.1).map (·.2))

end CharSet

end Criteria
