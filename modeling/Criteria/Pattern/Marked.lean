import Criteria.Pattern
/-!
Matching by marks. While a text is read from the left, those characters of a pattern are marked that
a match may just have read. Reading one more character moves all marks at once, so the time it takes
does not depend on the number of ways to match.
-/

namespace Criteria.Pattern

/-- The neighbours of a position in a text. -/
structure Position where
  before : Option Char
  after : Option Char

/-- A pattern with marks. Parts of several members know whether any mark is inside. -/
inductive Marked where
  | empty
  | anchor (a : Anchor) (word : CharSet)
  | char (s : CharSet) (mark : Bool)
  | seq (p q : Marked) (marks : Bool)
  | alt (p q : Marked) (marks : Bool)
  | star (p : Marked) (marks : Bool)

namespace Marked

/-- Whether there is any mark. -/
def marks : Marked → Bool
  | empty | anchor .. => false
  | char _ mark => mark
  | seq _ _ marks | alt _ _ marks | star _ marks => marks

def andThen (p q : Marked) : Marked := seq p q (p.marks || q.marks)

def orElse (p q : Marked) : Marked := alt p q (p.marks || q.marks)

def starred (p : Marked) : Marked := star p p.marks

/-- Whether a match can leave a pattern at a position: from a mark, or having entered the pattern at
this very position. -/
def leaves (pos : Position) (entered : Bool) : Marked → Bool
  | empty => entered
  | anchor a word => entered && a.holds word.mem pos.before pos.after
  | char _ mark => mark
  | seq p q marks => (entered || marks) && q.leaves pos (p.leaves pos entered)
  | alt p q marks => (entered || marks) && (p.leaves pos entered || q.leaves pos entered)
  | star p marks => entered || (marks && p.leaves pos false)

/-- The marks after the next character, from those at a position and from entering there. -/
def advance (pos : Position) (c : Char) (entered : Bool) : Marked → Marked
  | empty => empty
  | anchor a word => anchor a word
  | char s _ => char s (entered && s.mem c)
  | seq p q marks =>
    if entered || marks then
      (p.advance pos c entered).andThen (q.advance pos c (p.leaves pos entered))
    else seq p q marks
  | alt p q marks =>
    if entered || marks then (p.advance pos c entered).orElse (q.advance pos c entered)
    else alt p q marks
  | star p marks =>
    if entered || marks then (p.advance pos c (entered || p.leaves pos false)).starred
    else star p marks

/-- A pattern so many times in a row, as a tree of little height. -/
def power (p : Marked) (n : Nat) : Marked :=
  if n = 0 then empty
  else if n = 1 then p
  else
    let half := power p (n / 2)
    if n % 2 = 0 then half.andThen half else (half.andThen half).andThen p

/-- Whether a match lies anywhere in the rest of a text. A match may start at any position. -/
def found (before : Option Char) (p : Marked) : List Char → Bool
  | [] => p.leaves ⟨before, none⟩ true
  | c :: cs =>
    let here : Position := ⟨before, some c⟩
    p.leaves here true || found (some c) (p.advance here c true) cs

end Marked

/-- A pattern without marks. -/
def marked : Pattern → Marked
  | empty => .empty
  | char s => .char s false
  | anchor a word => .anchor a word
  | seq p q => p.marked.andThen q.marked
  | alt p q => p.marked.orElse q.marked
  | group p => p.marked
  | times p least most =>
    let head := p.marked.power least
    match most with
    | none => head.andThen p.marked.starred
    | some most => head.andThen ((p.marked.orElse .empty).power (most - least))

/-- Whether a match lies anywhere in a text. -/
def matchesIn (p : Pattern) (s : String) : Bool := p.marked.found none s.toList

end Criteria.Pattern
