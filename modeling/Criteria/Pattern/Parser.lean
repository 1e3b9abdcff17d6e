import Criteria.Pattern.Size
import Criteria.Pattern.Token
/-!
The text of regular expressions. What is not well formed, asks to look around or back, is nested too
deep or takes too much room is no pattern.
-/

namespace Criteria.Pattern

namespace Item

/-- The greatest number of levels. -/
def nestLimit : Nat := 250

/-- An item one level deeper, unless this is too deep. -/
def deeper? (i : Item) : Option Item :=
  if i.nest < nestLimit then some ⟨i.pattern, i.nest + 1⟩ else none

/-- The greatest number of levels in any of these items. -/
def depth (items : List Item) : Nat := (items.map (·.nest)).foldl max 0

/-- Items as one; a list of one item is the item. -/
def list? (f : List Pattern → Pattern) (items : List Item) : Option Item :=
  match items with
  | [i] => some i
  | items => deeper? ⟨f (items.map (·.pattern)), depth items⟩

end Item

/-- What has been read of a group, the last first. -/
structure Draft where
  /-- The alternatives before the one that is being read. -/
  before : List Item
  /-- The items of the alternative that is being read, nothing for a change of flags. -/
  items : List (Option Item)

namespace Draft

def new : Draft := ⟨[], []⟩

def push (d : Draft) (i : Option Item) : Draft := { d with items := i :: d.items }

/-- Repeats the last item. -/
def repeat? (d : Draft) (least : Nat) (most : Option Nat) : Option Draft :=
  match d.items with
  | some i :: items => do
    let i ← Item.deeper? ⟨i.pattern.repeated least most, i.nest⟩
    return { d with items := some i :: items }
  | _ => none

/-- The alternative that is being read. -/
def alternative? (d : Draft) : Option Item :=
  match d.items with
  | [] => some ⟨.empty, 0⟩
  | items => Item.list? sequence (items.reverse.map (·.getD ⟨.empty, 0⟩))

def bar? (d : Draft) : Option Draft :=
  d.alternative?.map fun i => ⟨i :: d.before, []⟩

/-- All that has been read. -/
def whole? (d : Draft) : Option Item :=
  d.alternative?.bind fun i => Item.list? alternatives ((i :: d.before).reverse)

end Draft

/-- A group around the one that is being read. -/
structure Outer where
  /-- The flags to go back to. -/
  flags : Flags
  draft : Draft
  /-- Whether a match remembers the group inside. -/
  remembered : Bool

structure Reading where
  flags : Flags
  draft : Draft
  /-- The groups around, from the inside out. -/
  outer : List Outer
  /-- The names of groups so far. -/
  names : List (List Char)

namespace Reading

def start : Reading := ⟨{}, .new, [], []⟩

/-- Takes one more sign. -/
def take? (r : Reading) : Token → Option Reading
  | .item i => some { r with draft := r.draft.push (some i) }
  | .times least most => (r.draft.repeat? least most).map fun d => { r with draft := d }
  | .flags f => some { r with flags := f, draft := r.draft.push none }
  | .bar => r.draft.bar?.map fun d => { r with draft := d }
  | .opening f remembered name =>
    if name.any r.names.contains then none
    else some ⟨f, .new, ⟨r.flags, r.draft, remembered⟩ :: r.outer, name.toList ++ r.names⟩
  | .closing =>
    match r.outer with
    | [] => none
    | o :: outer => do
      let i ← (← r.draft.whole?).deeper?
      let i : Item := if o.remembered then ⟨.group i.pattern, i.nest⟩ else i
      return ⟨o.flags, o.draft.push (some i), outer, r.names⟩

/-- Takes the signs of a text. -/
def run? : Nat → Reading → List Char → Option Reading
  | 0, _, _ => none
  | fuel + 1, r, cs =>
    match r.flags.skip cs with
    | [] => some r
    | cs =>
      match Token.read? r.flags cs with
      | none => none
      | some (token, cs) =>
        match r.take? token with
        | none => none
        | some r => run? fuel r cs

end Reading

/-- The pattern that a text spells. -/
def ofText? (text : String) : Option Pattern := do
  let cs := text.toList
  let r ← Reading.start.run? (cs.length + 1) cs
  if r.outer.isEmpty then
    let i ← r.draft.whole?
    if i.pattern.isSmall then return i.pattern else failure
  else failure

end Criteria.Pattern
