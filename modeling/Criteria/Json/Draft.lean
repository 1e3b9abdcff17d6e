import Criteria.Json
/-!
What a JSON text says as far as it can be read. A draft keeps the place and the kind of the first
fault of the text, so that a reader that goes through it from the left meets the fault exactly where
it matters, and never if it stops before.
-/

namespace Criteria.Json

/-- Why a JSON text cannot be read as a value of some kind. -/
inductive Fault where
  /-- The text is not JSON. -/
  | malformed
  /-- The text ends early. -/
  | truncated
  /-- The text is JSON but not of this kind. -/
  | mismatch
  deriving DecidableEq

def Fault.message : Fault → String
  | malformed => "malformed text"
  | truncated => "unexpected end of text"
  | mismatch => "unexpected kind of value"

/-- What a value that the text breaks off in had begun as. -/
inductive Opening where
  /-- Nothing that a value can begin with. -/
  | none
  | null
  /-- A Boolean or a number. -/
  | scalar
  | text
  deriving DecidableEq

/-- A JSON text up to its first fault. A list or object that is not closed carries the fault that
stands in place of its bracket. Some faults depend on whether the value is read or skipped: a number
that does not fit and a half of a surrogate pair are faults of a value that is read only. -/
inductive Draft where
  | null
  | bool (b : Bool)
  /-- Nothing for a number out of range. -/
  | number (n : Option Numeral)
  /-- Nothing for a text with an unpaired surrogate. -/
  | text (s : Option String)
  | list (items : List Draft) (ending : Option Fault)
  | object (members : List (Except Fault String × Draft)) (ending : Option Fault)
  /-- The text breaks off here, with one fault if the value is read and one if it is skipped. -/
  | broken (opening : Opening) (read skipped : Fault)
  deriving Inhabited

namespace Draft

mutual

/-- A JSON value as a draft without faults. -/
def ofJson : Json → Draft
  | .null => .null
  | .bool b => .bool b
  | .number n => .number (some n)
  | .text s => .text (some s)
  | .list items => .list (ofItems items) none
  | .object members => .object (ofMembers members) none

def ofItems : List Json → List Draft
  | [] => []
  | j :: js => ofJson j :: ofItems js

def ofMembers : List (String × Json) → List (Except Fault String × Draft)
  | [] => []
  | (key, j) :: ms => (.ok key, ofJson j) :: ofMembers ms

end

mutual

/-- The greatest number of lists and objects around one another. -/
def depth : Draft → Nat
  | .list items _ => itemsDepth items + 1
  | .object members _ => membersDepth members + 1
  | _ => 0

def itemsDepth : List Draft → Nat
  | [] => 0
  | d :: ds => max d.depth (itemsDepth ds)

def membersDepth : List (Except Fault String × Draft) → Nat
  | [] => 0
  | (_, d) :: ms => max d.depth (membersDepth ms)

end

/-- Whether the text ends properly here. -/
def closed : Option Fault → Except Fault Unit
  | some fault => .error fault
  | none => .ok ()

mutual

/-- Goes over a value without looking at it. -/
def skip : Draft → Except Fault Unit
  | .broken _ _ skipped => .error skipped
  | .list items ending => do skipItems items; closed ending
  | .object members ending => do skipMembers members; closed ending
  | _ => .ok ()

def skipItems : List Draft → Except Fault Unit
  | [] => .ok ()
  | d :: ds => do d.skip; skipItems ds

def skipMembers : List (Except Fault String × Draft) → Except Fault Unit
  | [] => .ok ()
  | (_, d) :: ms => do d.skip; skipMembers ms

end

/-- A value that cannot be read: the fault in the text, or nothing the reader can use. -/
def refuse {α : Type} : Draft → Except Fault α
  | .broken _ read _ => .error read
  | .number none | .text none => .error .malformed
  | _ => .error .mismatch

/-- A key that is read. -/
def key : Except Fault String → Except Fault String := id

mutual

/-- Reads a value of any kind with at most `levels` lists and objects around one another. -/
def toJson (levels : Nat) : Draft → Except Fault Json
  | .null => .ok .null
  | .bool b => .ok (.bool b)
  | .number (some n) => .ok (.number n)
  | .text (some s) => .ok (.text s)
  | .number none | .text none => .error .malformed
  | .broken _ read _ => .error read
  | .list items ending =>
    match levels with
    | 0 => .error .malformed
    | levels + 1 => do
      let js ← itemsToJson levels items
      closed ending
      return .list js
  | .object members ending =>
    match levels with
    | 0 => .error .malformed
    | levels + 1 => do
      let ms ← membersToJson levels members
      closed ending
      return .object ms

def itemsToJson (levels : Nat) : List Draft → Except Fault (List Json)
  | [] => .ok []
  | d :: ds => do
    let j ← d.toJson levels
    let js ← itemsToJson levels ds
    return j :: js

def membersToJson (levels : Nat) : List (Except Fault String × Draft) →
    Except Fault (List (String × Json))
  | [] => .ok []
  | (k, d) :: ms => do
    let name ← key k
    let j ← d.toJson levels
    let js ← membersToJson levels ms
    return (name, j) :: js

end

end Draft

end Criteria.Json
