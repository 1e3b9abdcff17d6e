import Criteria.Date.Reader
/-!
The values that conditions compare with. A value has a numeric, a Boolean and a calendar view, each
of which it may lack, and a plain text, which it always has.
-/

namespace Criteria

inductive Value where
  | null
  | bool (b : Bool)
  | number (x : Number)
  | text (s : String)
  | list (items : List Value)
  deriving Inhabited

namespace Value

mutual

def decEq : (a b : Value) → Decidable (a = b)
  | .null, .null => isTrue rfl
  | .bool a, .bool b =>
    if h : a = b then isTrue (by rw [h]) else isFalse (by simpa using h)
  | .number a, .number b =>
    if h : a = b then isTrue (by rw [h]) else isFalse (by simpa using h)
  | .text a, .text b =>
    if h : a = b then isTrue (by rw [h]) else isFalse (by simpa using h)
  | .list a, .list b =>
    match decEqItems a b with
    | isTrue h => isTrue (by rw [h])
    | isFalse h => isFalse (by simpa using h)
  | .null, .bool _ | .null, .number _ | .null, .text _ | .null, .list _
  | .bool _, .null | .bool _, .number _ | .bool _, .text _ | .bool _, .list _
  | .number _, .null | .number _, .bool _ | .number _, .text _ | .number _, .list _
  | .text _, .null | .text _, .bool _ | .text _, .number _ | .text _, .list _
  | .list _, .null | .list _, .bool _ | .list _, .number _ | .list _, .text _ =>
    isFalse (by simp)

def decEqItems : (a b : List Value) → Decidable (a = b)
  | [], [] => isTrue rfl
  | [], _ :: _ | _ :: _, [] => isFalse (by simp)
  | x :: xs, y :: ys =>
    match decEq x y, decEqItems xs ys with
    | isTrue h, isTrue k => isTrue (by rw [h, k])
    | isFalse h, _ => isFalse (by simp [h])
    | _, isFalse k => isFalse (by simp [k])

end

instance : DecidableEq Value := decEq

/-- Whether nothing has been entered: no value, an empty text or an empty list. -/
def isMissing : Value → Bool
  | .null => true
  | .text s => s.isEmpty
  | .list items => items.isEmpty
  | _ => false

/-- The number that a value is or spells. -/
def number? : Value → Option Number
  | .number x => some x
  | .text s => Number.ofChars? (Text.trim s.toList)
  | _ => none

def text? : Value → Option String
  | .text s => some s
  | _ => none

/-- The Boolean that a value is or names. -/
def bool? : Value → Option Bool
  | .bool b => some b
  | .text s => if s = "true" then some true else if s = "false" then some false else none
  | _ => none

/-- The day that a text denotes. -/
def date? : Value → Option Date
  | .text s => Date.parse? s
  | _ => none

def list? : Value → Option (List Value)
  | .list items => some items
  | _ => none

/-- The lower and the upper bound of a list of two. -/
def range? : Value → Option (Value × Value)
  | .list [low, high] => some (low, high)
  | _ => none

/-- The items of a list; any other value is its own only item. -/
def items : Value → List Value
  | .list items => items
  | v => [v]

def isList (v : Value) : Bool := v.list?.isSome

mutual

/-- The value as plain text; the items of a list are set off by commas. -/
def plain : Value → String
  | .null => ""
  | .bool b => if b then "true" else "false"
  | .number x => x.text
  | .text s => s
  | .list items => ", ".intercalate (plains items)

def plains : List Value → List String
  | [] => []
  | v :: vs => v.plain :: plains vs

end

/-- A day as a value is its text. -/
def ofDate (d : Date) : Value := .text d.iso

end Value

end Criteria
