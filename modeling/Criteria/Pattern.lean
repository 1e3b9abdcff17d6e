import Criteria.CharSet
/-!
Regular expressions over texts. A pattern matches a text if some stretch of the text, found between
two positions, is of its form.
-/

namespace Criteria

/-- What a position between two characters can be. -/
inductive Anchor where
  | textStart
  | textEnd
  /-- After a line end; with `both`, carriage returns end lines too. -/
  | lineStart (both : Bool)
  | lineEnd (both : Bool)
  | wordBoundary
  | notWordBoundary
  | wordStart
  | wordEnd
  /-- Not after a character of a word. -/
  | wordStartHalf
  /-- Not before a character of a word. -/
  | wordEndHalf
  deriving DecidableEq

namespace Anchor

/-- Whether the position between two neighbours, either of which may lack, is of this kind.
`isWord` tells the characters of words. -/
def holds (isWord : Char → Bool) (before after : Option Char) : Anchor → Bool
  | textStart => before.isNone
  | textEnd => after.isNone
  | lineStart false => before.all (· = '\n')
  | lineStart true => before.all fun c => c = '\n' || (c = '\r' && after.all (· ≠ '\n'))
  | lineEnd false => after.all (· = '\n')
  | lineEnd true => after.all fun c => c = '\r' || (c = '\n' && before.all (· ≠ '\r'))
  | wordBoundary => before.any isWord != after.any isWord
  | notWordBoundary => before.any isWord == after.any isWord
  | wordStart => !before.any isWord && after.any isWord
  | wordEnd => before.any isWord && !after.any isWord
  | wordStartHalf => !before.any isWord
  | wordEndHalf => !after.any isWord

end Anchor

inductive Pattern where
  | empty
  | char (s : CharSet)
  /-- A kind of position, with the characters that belong to words. -/
  | anchor (a : Anchor) (word : CharSet)
  | seq (p q : Pattern)
  | alt (p q : Pattern)
  /-- A part that a match remembers. -/
  | group (p : Pattern)
  /-- At least and at most so many times, without an upper limit if there is none. -/
  | times (p : Pattern) (least : Nat) (most : Option Nat)
  deriving DecidableEq

namespace Pattern

/-- One pattern after another. -/
def followedBy : Pattern → Pattern → Pattern
  | empty, q => q
  | p, empty => p
  | p, q => seq p q

/-- Whether a pattern matches nothing but the empty text. -/
def isVoid : Pattern → Bool
  | empty | anchor .. => true
  | char _ => false
  | seq p q | alt p q => p.isVoid && q.isVoid
  | group p | times p .. => p.isVoid

/-- Whether a pattern may match the empty text. -/
def isNullable : Pattern → Bool
  | empty | anchor .. => true
  | char _ => false
  | seq p q => p.isNullable && q.isNullable
  | alt p q => p.isNullable || q.isNullable
  | group p => p.isNullable
  | times p least _ => least = 0 || p.isNullable

/-- A pattern so many times. What matches nothing but the empty text need not be repeated. -/
def repeated (p : Pattern) (least : Nat) (most : Option Nat) : Pattern :=
  let (least, most) := if p.isVoid then (min least 1, some (min (most.getD 1) 1)) else (least, most)
  if most = some 0 then empty
  else if least = 1 && most = some 1 then p
  else times p least most

/-- Joins patterns to one in a tree of little height, the order kept. -/
def joined (f : Pattern → Pattern → Pattern) (ps : List Pattern) : Pattern :=
  go ps.length ps
where
  pairs : List Pattern → List Pattern
    | p :: q :: ps => f p q :: pairs ps
    | ps => ps
  go : Nat → List Pattern → Pattern
    | _, [] => empty
    | _, [p] => p
    | 0, p :: _ => p
    | rounds + 1, ps => go rounds (pairs ps)

def sequence (ps : List Pattern) : Pattern := joined followedBy ps

/-- The set of a pattern for one character. -/
def chars? : Pattern → Option CharSet
  | char s => some s
  | _ => none

/-- One of several patterns. Characters to choose from are a set. -/
def alternatives (ps : List Pattern) : Pattern :=
  match ps.mapM chars? with
  | some (s :: ss) => char (ss.foldl CharSet.union s)
  | _ => joined alt ps

end Pattern

end Criteria
