import Criteria.CharSet.Utf8
import Criteria.Pattern
/-!
The size of the automata that read the texts of a pattern byte by byte, one from the left and one
from the right. Patterns with too great an automaton are refused.
-/

namespace Criteria

/-- The bytes that a state takes. -/
def stateSize : Nat := 32

/-- The bytes that a step by a byte range takes. -/
def stepSize : Nat := 8

/-- The bytes that a choice of a state takes. -/
def choiceSize : Nat := 4

/-- The bytes for a character of a set. The automaton from the left shares what goes on alike, the
one from the right what begins alike. -/
def CharSet.automatonSize (backward : Bool) (s : CharSet) : Nat :=
  match s.only? with
  | some c => stateSize * c.utf8Size
  | none =>
    if s.isEmpty then stateSize
    else if s.isAscii then 2 * stateSize + stepSize * s.runs.length
    else if backward then
      2 * stateSize + stateSize * beginnings [] s.sequences + choiceSize * s.sequences.length
    else
      (graph s).foldl (fun n tails => n + stateSize + stepSize * (branches tails).length) stateSize

namespace Pattern

/-- The bytes for one more branch of a choice, given those for it alone. A choice among the branches
gives its own branches. -/
def branchSize (p : Pattern) (size : Nat) : Nat :=
  match p with
  | alt .. => size - 2 * stateSize
  | _ => size + choiceSize

/-- The bytes for a pattern. -/
def size (backward : Bool) : Pattern → Nat
  | empty | anchor .. => stateSize
  | char s => s.automatonSize backward
  | seq p q => p.size backward + q.size backward
  | alt p q => 2 * stateSize + p.branchSize (p.size backward) + q.branchSize (q.size backward)
  | group p => (if backward then 0 else 2 * stateSize) + p.size backward
  | times p least most =>
    let one := p.size backward
    let choice := stateSize + 2 * choiceSize
    match least, most with
    | 0, none =>
      if p.isNullable then one + 2 * choice + stateSize else one + choice
    | least, none => least * one + choice
    | 0, some 1 => one + choice + stateSize
    | least, some most =>
      let start := if least = 0 then stateSize else least * one
      if least = most then start else start + stateSize + (most - least) * (one + choice)

/-- Whether each match begins with an anchor, or with `backward` ends with it, in such a way that
the form of the pattern shows it. -/
def isBoundBy (a : Anchor) (backward : Bool) : Pattern → Bool
  | empty | char _ => false
  | anchor b _ => b = a
  | seq p q =>
    if backward then q.isBoundBy a backward || (q.isVoid && p.isBoundBy a backward)
    else p.isBoundBy a backward || (p.isVoid && q.isBoundBy a backward)
  | alt p q => p.isBoundBy a backward && q.isBoundBy a backward
  | group p => p.isBoundBy a backward
  | times p least _ => least ≠ 0 && p.isBoundBy a backward

/-- The bytes of an automaton. Besides those for the pattern it has a loop over any bytes in front,
unless it is bound to the end of the text that it starts at, the bounds of the match if it reads
from the left, and the end. -/
def automatonSize (backward : Bool) (p : Pattern) : Nat :=
  let bound := p.isBoundBy (if backward then .textEnd else .textStart) backward
  let front := if bound then stateSize else 3 * stateSize + stepSize + 2 * choiceSize
  let bounds := if backward then 0 else 2 * stateSize
  front + bounds + p.size backward + stateSize

/-- The greatest size of an automaton. -/
def sizeLimit : Nat := 10 * Nat.pow 2 20

/-- Whether both automata of a pattern are small enough. -/
def isSmall (p : Pattern) : Bool :=
  p.automatonSize false ≤ sizeLimit && p.automatonSize true ≤ sizeLimit

end Pattern

end Criteria
