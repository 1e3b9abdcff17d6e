import Criteria.Number.Text
/-!
JSON values. An object keeps its members in the order they were given; `Json.sorted` puts every
object in the order of its keys.
-/

namespace Criteria

/-- A JSON number: a literal without point and exponent that fits 64 bits is an integer; every other
literal is a binary64, and `-0.0` keeps its sign. -/
inductive Numeral where
  | int (n : Int)
  | real (x : Number)
  | negativeZero
  deriving DecidableEq

namespace Numeral

/-- The number nearest to a numeral. -/
def toNumber? : Numeral → Option Number
  | .int n => Number.ofInt? n
  | .real x => some x
  | .negativeZero => some .zero

def chars : Numeral → List Char
  | .int n => Decimal.intChars n
  | .real x => x.layOut .json
  | .negativeZero => ['-', '0', '.', '0']

end Numeral

inductive Json where
  | null
  | bool (b : Bool)
  | number (n : Numeral)
  | text (s : String)
  | list (items : List Json)
  | object (members : List (String × Json))
  deriving Inhabited

namespace Json

mutual

def decEq : (a b : Json) → Decidable (a = b)
  | .null, .null => isTrue rfl
  | .bool a, .bool b =>
    if h : a = b then isTrue (by rw [h]) else isFalse (by simpa using h)
  | .number a, .number b =>
    if h : a = b then isTrue (by rw [h]) else isFalse (by simpa using h)
  | .text a, .text b =>
    if h : a = b then isTrue (by rw [h]) else isFalse (by simpa using h)
  | .list a, .list b =>
    match decEqItems a b with
    | isTrue h => isTrue (by rw [h])
    | isFalse h => isFalse (by simpa using h)
  | .object a, .object b =>
    match decEqMembers a b with
    | isTrue h => isTrue (by rw [h])
    | isFalse h => isFalse (by simpa using h)
  | .null, .bool _ | .null, .number _ | .null, .text _ | .null, .list _ | .null, .object _
  | .bool _, .null | .bool _, .number _ | .bool _, .text _ | .bool _, .list _ | .bool _, .object _
  | .number _, .null | .number _, .bool _ | .number _, .text _ | .number _, .list _
  | .number _, .object _ | .text _, .null | .text _, .bool _ | .text _, .number _
  | .text _, .list _ | .text _, .object _ | .list _, .null | .list _, .bool _
  | .list _, .number _ | .list _, .text _ | .list _, .object _ | .object _, .null
  | .object _, .bool _ | .object _, .number _ | .object _, .text _ | .object _, .list _ =>
    isFalse (by simp)

def decEqItems : (a b : List Json) → Decidable (a = b)
  | [], [] => isTrue rfl
  | [], _ :: _ | _ :: _, [] => isFalse (by simp)
  | x :: xs, y :: ys =>
    match decEq x y, decEqItems xs ys with
    | isTrue h, isTrue k => isTrue (by rw [h, k])
    | isFalse h, _ => isFalse (by simp [h])
    | _, isFalse k => isFalse (by simp [k])

def decEqMembers : (a b : List (String × Json)) → Decidable (a = b)
  | [], [] => isTrue rfl
  | [], _ :: _ | _ :: _, [] => isFalse (by simp)
  | (n, x) :: xs, (m, y) :: ys =>
    match decEq x y, decEqMembers xs ys with
    | isTrue h, isTrue k =>
      if e : n = m then isTrue (by rw [h, k, e]) else isFalse (by simp [e])
    | isFalse h, _ => isFalse (by simp [h])
    | _, isFalse k => isFalse (by simp [k])

end

instance : DecidableEq Json := decEq

/-- An integer as a JSON value. -/
def ofInt (n : Int) : Json := .number (.int n)

def ofNat (n : Nat) : Json := .ofInt n

/-- A number as a JSON value: an integer literal when it is a small whole number. -/
def ofNumber (x : Number) : Json :=
  match x.integer? with
  | some n => .ofInt n
  | none => .number (.real x)

/-- A value that may be absent; absence is null. -/
def ofOption {α : Type} (f : α → Json) : Option α → Json
  | some a => f a
  | none => .null

/-- A member that is left out when its value is absent. -/
def optional {α : Type} (key : String) (f : α → Json) : Option α → List (String × Json)
  | some a => [(key, f a)]
  | none => []

/-- The value of a key; of a repeated key the last one. -/
def get? (key : String) : Json → Option Json
  | .object members => (members.reverse.find? (·.1 = key)).map (·.2)
  | _ => none

/-- Puts a member before the first one whose key is not smaller. -/
def insertMember (m : String × Json) : List (String × Json) → List (String × Json)
  | [] => [m]
  | n :: ns => if n.1 < m.1 then n :: insertMember m ns else m :: n :: ns

mutual

/-- The same value with the members of every object in the order of their keys. -/
def sorted : Json → Json
  | .list items => .list (sortedItems items)
  | .object members => .object (sortedMembers members)
  | j => j

def sortedItems : List Json → List Json
  | [] => []
  | j :: js => j.sorted :: sortedItems js

def sortedMembers : List (String × Json) → List (String × Json)
  | [] => []
  | (key, j) :: ms => insertMember (key, j.sorted) (sortedMembers ms)

end

end Json

end Criteria
