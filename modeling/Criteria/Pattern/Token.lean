import Criteria.Number.Text
import Criteria.Pattern.Bracket
/-!
The signs of a regular expression: single items, repetitions, changes of flags, and the signs that
open, part and close groups.
-/

namespace Criteria.Pattern

/-- A pattern with its levels of nesting, which are counted as the text is written: groups,
repetitions, sets in brackets, and lists of items or alternatives. -/
structure Item where
  pattern : Pattern
  nest : Nat

inductive Token where
  | item (i : Item)
  | times (least : Nat) (most : Option Nat)
  /-- A change of flags for the rest of the group. -/
  | flags (f : Flags)
  /-- The start of a group with its flags, and its name if it has one. A match need not remember it.
  -/
  | opening (f : Flags) (remembered : Bool) (name : Option (List Char))
  | closing
  | bar

namespace Token

/-- A number in decimal digits with blanks around it. -/
def count? (f : Flags) (cs : List Char) : Option (Nat × List Char) :=
  match f.span Char.isDigit (cs.dropWhile Text.isBlank) with
  | ([], _) => none
  | (digits, rest) =>
    let n := Decimal.ofDigits (digits.map fun c => c.toNat - '0'.toNat)
    if n < Nat.pow 2 32 then some (n, rest.dropWhile Text.isBlank) else none

/-- Limits of repetition after an opening brace, with the text after the closing one. Without a
second number the brace closes right after the comma. -/
def limits? (f : Flags) (cs : List Char) : Option (Nat × Option Nat × List Char) := do
  let (least, cs) ← count? f (f.skip cs)
  match cs with
  | '\x7d' :: cs => return (least, some least, cs)
  | ',' :: cs =>
    match f.skip cs with
    | '\x7d' :: cs => return (least, none, cs)
    | cs => do
      let (most, cs) ← count? f cs
      match cs with
      | '\x7d' :: cs => if least ≤ most then return (least, some most, cs) else failure
      | _ => failure
  | _ => failure

/-- A text without a question mark at its start. How much a repetition prefers to take does not
matter for whether there is a match. -/
def dropLazy : List Char → List Char
  | '?' :: cs => cs
  | cs => cs

def isNameStart (c : Char) : Bool := c = '_' || CharSet.alphabetic.mem c

def isNameChar (c : Char) : Bool :=
  isNameStart c || c = '.' || c = '[' || c = ']' || (CharSet.Category.named "N").mem c

/-- The name of a group up to its closing bracket. -/
def groupName? (cs : List Char) : Option (List Char × List Char) :=
  let name := cs.takeWhile (· ≠ '>')
  match name, cs.drop name.length with
  | c :: rest, _ :: cs =>
    if isNameStart c && rest.all isNameChar then some (c :: rest, cs) else none
  | _, _ => none

/-- A group with a name. -/
def named? (f : Flags) (cs : List Char) : Option (Token × List Char) :=
  (groupName? cs).map fun (name, rest) => (opening f true (some name), rest)

/-- What follows an opening parenthesis. Groups that look around are refused. -/
def group? (f : Flags) : List Char → Option (Token × List Char)
  | '?' :: '=' :: _ | '?' :: '!' :: _ | '?' :: '<' :: '=' :: _ | '?' :: '<' :: '!' :: _ => none
  | '?' :: 'P' :: '<' :: cs | '?' :: '<' :: cs => named? f cs
  | '?' :: ')' :: _ => none
  | '?' :: cs =>
    match f.read? true [] cs with
    | some (g, ':', rest) => some (opening g false none, rest)
    | some (g, _, rest) => some (flags g, rest)
    | none => none
  | cs => some (opening f true none, cs)

/-- An item that is no list. -/
def single (p : Pattern) : Token := item ⟨p, 0⟩

def anchored (f : Flags) (a : Anchor) : Token := single (.anchor a f.word)

def character (f : Flags) (c : Char) : Token := single (.char (f.fold (.single c)))

/-- The first sign of a text. -/
def read? (f : Flags) : List Char → Option (Token × List Char)
  | [] => none
  | '(' :: cs => group? f (f.skip cs)
  | ')' :: cs => some (closing, cs)
  | '|' :: cs => some (bar, cs)
  | '*' :: cs => some (times 0 none, dropLazy cs)
  | '+' :: cs => some (times 1 none, dropLazy cs)
  | '?' :: cs => some (times 0 (some 1), dropLazy cs)
  | '\x7b' :: cs =>
    (limits? f cs).map fun (least, most, cs) => (times least most, dropLazy (f.skip cs))
  | '[' :: cs => (Bracket.set? f cs).map fun (s, nest, cs) => (item ⟨.char s, nest⟩, cs)
  | '\\' :: cs =>
    (Escape.read? f cs).map fun
      | (.char c, cs) => (character f c, cs)
      | (.set s, cs) => (single (.char s), cs)
      | (.anchor a, cs) => (anchored f a, cs)
  | '.' :: cs => (f.point?).map fun s => (single (.char s), cs)
  | '^' :: cs =>
    some (anchored f (if f.multiLine then .lineStart f.carriageReturn else .textStart), cs)
  | '$' :: cs => some (anchored f (if f.multiLine then .lineEnd f.carriageReturn else .textEnd), cs)
  | c :: cs => some (character f c, cs)

end Token

end Criteria.Pattern
