import Criteria.Pattern.Escape
/-!
Sets of characters between brackets: characters, ranges, other sets, and sets inside, joined by
operators.
-/

namespace Criteria.Pattern

/-- The classes of ASCII characters by name. -/
def asciiClass? (name : List Char) : Option CharSet :=
  (table.find? (·.1 = String.ofList name)).map fun entry => CharSet.ofTable [entry.2]
where
  table : List (String × String) :=
    [("alnum", "30-39 41-5A 61-7A"), ("alpha", "41-5A 61-7A"), ("ascii", "0-7F"), ("blank", "9 20"),
      ("cntrl", "0-1F 7F"), ("digit", "30-39"), ("graph", "21-7E"), ("lower", "61-7A"),
      ("print", "20-7E"), ("punct", "21-2F 3A-40 5B-60 7B-7E"), ("space", "9-D 20"),
      ("upper", "41-5A"), ("word", "30-39 41-5A 5F 61-7A"), ("xdigit", "30-39 41-46 61-66")]

/-- A set between brackets that is being read. -/
structure Bracket where
  negated : Bool
  /-- What stands before the last operator, with the operator and the levels of nesting in it. -/
  left : Option (CharSet × Char × Nat)
  /-- The characters since the last operator. -/
  set : CharSet
  /-- The number of items that they come from. -/
  items : Nat
  /-- The levels of nesting in these items. -/
  nest : Nat

namespace Bracket

def add (b : Bracket) (s : CharSet) (nest : Nat) : Bracket :=
  { b with set := b.set.union s, items := b.items + 1, nest := max b.nest nest }

/-- A set with another one by an operator. -/
def apply (operator : Char) (a b : CharSet) : CharSet :=
  if operator = '&' then a.inter b
  else if operator = '-' then a.diff b
  else a.symmDiff b

/-- The characters since the last operator, and the levels of nesting with the list of items. -/
def operand (b : Bracket) : CharSet × Nat := (b.set, if b.items < 2 then b.nest else b.nest + 1)

/-- All that has been read as one set. Operators work on sets that letters of either case have been
added to. -/
def whole (f : Flags) (b : Bracket) : CharSet × Nat :=
  let (set, nest) := b.operand
  match b.left with
  | none => (set, nest)
  | some (left, operator, leftNest) =>
    (apply operator (f.fold left) (f.fold set), max leftNest nest + 1)

def operate (f : Flags) (b : Bracket) (operator : Char) : Bracket :=
  let (set, nest) := b.whole f
  ⟨b.negated, some (set, operator, nest), .empty, 0, 0⟩

/-- The set with its brackets closed. -/
def close? (f : Flags) (b : Bracket) : Option (CharSet × Nat) :=
  let (set, nest) := b.whole f
  (f.signed? b.negated (f.fold set)).map (·, nest + 1)

/-- A set after its opening bracket. A hyphen, or else a closing bracket, stands for itself here. -/
def begin (f : Flags) (cs : List Char) : Bracket × List Char :=
  let (negated, cs) := match f.skip cs with
    | '^' :: cs => (true, f.skip cs)
    | cs => (false, cs)
  let (hyphens, cs) := f.span (· = '-') cs
  let hyphen : CharSet := if hyphens.isEmpty then .empty else .single '-'
  match hyphens, cs with
  | [], ']' :: cs => (⟨negated, none, .single ']', 1, 0⟩, f.skip cs)
  | _, cs => (⟨negated, none, hyphen, hyphens.length, 0⟩, cs)

/-- A class of ASCII characters after `[`, if one stands here. -/
def namedClass? (f : Flags) : List Char → Option (Option CharSet × List Char)
  | ':' :: cs =>
    let (negated, cs) := match cs with
      | '^' :: cs => (true, cs)
      | cs => (false, cs)
    let name := cs.takeWhile (· ≠ ':')
    match cs.drop name.length with
    | ':' :: ']' :: rest =>
      (asciiClass? name).map fun s => (f.signed? negated (f.fold s), rest)
    | _ => none
  | _ => none

/-- An item: a character or a set. -/
def item? (f : Flags) : List Char → Option ((Char ⊕ CharSet) × List Char)
  | [] => none
  | '\\' :: cs =>
    match Escape.read? f cs with
    | some (.char c, cs) => some (.inl c, cs)
    | some (.set s, cs) => some (.inr s, cs)
    | some (.anchor _, _) | none => none
  | c :: cs => some (.inl c, cs)

/-- The character that decides whether a hyphen before it makes a range. A comment counts up to its
first word only. -/
def decider (f : Flags) (cs : List Char) : Option Char :=
  if f.spaced then
    let start := match cs.dropWhile Text.isBlank with
      | '#' :: comment => comment.dropWhile Text.isBlank
      | rest => rest
    start.head?.or cs.head?
  else cs.head?

/-- The characters from one to another, which have to be in order. -/
def range? (f : Flags) (first last : Char) : Option CharSet :=
  if last < first || (f.ascii && 128 ≤ last.toNat) then none else some (.range first last)

/-- An item or a range of two characters. A hyphen before a closing bracket or another hyphen makes
no range. -/
def rangeOrItem? (f : Flags) (cs : List Char) : Option (CharSet × List Char) := do
  let (item, cs) ← item? f cs
  match f.skip cs with
  | '-' :: rest =>
    if decider f rest = some ']' || decider f rest = some '-' then
      return (← alone item, '-' :: rest)
    else
      match item, ← item? f (f.skip rest) with
      | .inl first, (.inl last, cs) => return (← range? f first last, cs)
      | _, _ => failure
  | cs => return (← alone item, cs)
where
  alone : Char ⊕ CharSet → Option CharSet
    | .inl c => range? f c c
    | .inr s => some s

/-- Reads a set up to its closing bracket; `outer` are the sets around it that are not closed yet.
-/
def read? (f : Flags) : Nat → Bracket → List Bracket → List Char →
    Option (CharSet × Nat × List Char)
  | 0, _, _, _ => none
  | fuel + 1, b, outer, cs =>
    match f.skip cs with
    | [] => none
    | ']' :: cs =>
      match b.close? f, outer with
      | none, _ => none
      | some (set, nest), [] => some (set, nest, cs)
      | some (set, nest), around :: outer => read? f fuel (around.add set nest) outer cs
    | '[' :: cs =>
      match namedClass? f cs with
      | some (some set, cs) => read? f fuel (b.add set 0) outer cs
      | some (none, _) => none
      | none =>
        let (inner, cs) := begin f cs
        read? f fuel inner (b :: outer) cs
    | '&' :: '&' :: cs => read? f fuel (b.operate f '&') outer cs
    | '-' :: '-' :: cs => read? f fuel (b.operate f '-') outer cs
    | '~' :: '~' :: cs => read? f fuel (b.operate f '~') outer cs
    | cs =>
      match rangeOrItem? f cs with
      | some (set, cs) => read? f fuel (b.add set 0) outer cs
      | none => none

/-- The set after an opening bracket, with its levels of nesting and the text after it. -/
def set? (f : Flags) (cs : List Char) : Option (CharSet × Nat × List Char) :=
  let (b, cs) := begin f cs
  read? f (cs.length + 1) b [] cs

end Bracket

end Criteria.Pattern
