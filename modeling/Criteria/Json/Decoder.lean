import Criteria.Json.Reader
/-!
Decoding drafts into records. A record is read from an object, in whatever order its members come,
or from a list of its fields in order. A value of several kinds is told apart by a tag among its
members. Decoders go through the draft from the left, so the first fault in the text is reported.
-/

namespace Criteria.Json

/-- Where a draft comes from, which decides the finer points of what is accepted. -/
inductive Source where
  /-- Straight from text, as it is being read. -/
  | text
  /-- A JSON value. -/
  | value
  /-- Text that was read in full before it was known what it stands for. -/
  | buffered
  /-- The same, inside a value that was told by its tag. -/
  | tagged
  deriving DecidableEq

/-- Reads a draft with at most so many lists and objects around one another. -/
abbrev Decoder (α : Type) := Source → Nat → Draft → Except Fault α

namespace Decoder

def string : Decoder String
  | _, _, .text (some s) => .ok s
  | _, _, d => d.refuse

def bool : Decoder Bool
  | _, _, .bool b => .ok b
  | _, _, d => d.refuse

def numeral : Decoder Numeral
  | _, _, .number (some n) => .ok n
  | _, _, d => d.refuse

/-- A natural number below `2 ^ 64`. -/
def natural : Decoder Nat
  | _, _, .number (some (.int (.ofNat n))) => .ok n
  | _, _, d => d.refuse

/-- Null is absence. -/
def option {α : Type} (decode : Decoder α) : Decoder (Option α)
  | _, _, .null => .ok none
  | _, _, .broken .null read _ => .error read
  | source, levels, d => (decode source levels d).map some

/-- Keeps what a test lets through. -/
def checked {α β : Type} (decode : Decoder α) (f : α → Option β) : Decoder β
  | source, levels, d => do
    match f (← decode source levels d) with
    | some b => .ok b
    | none => .error .mismatch

def items {α : Type} (decode : Draft → Except Fault α) : List Draft → Except Fault (List α)
  | [] => .ok []
  | d :: ds => do
    let a ← decode d
    let as ← items decode ds
    return a :: as

def list {α : Type} (decode : Decoder α) : Decoder (List α)
  | _, 0, .list .. => .error .malformed
  | source, levels + 1, .list ds ending => do
    let as ← items (decode source levels) ds
    Draft.closed ending
    return as
  | _, _, d => d.refuse

/-- One of several names, found in a table. -/
def lookup {α : Type} (table : List (String × α)) (name : String) : Except Fault α :=
  match table.find? (·.1 = name) with
  | some (_, a) => .ok a
  | none => .error .mismatch

/-- The value that goes with a name where none is needed. -/
def nothing : Source → Draft → Except Fault Unit
  | _, .null => .ok ()
  | .tagged, .object [] none => .ok ()
  | _, d => d.refuse

/-- A name, or an object that has the name as its only key and nothing as its value. In text nothing
else is read any further than to its first character. -/
def name {α : Type} (table : List (String × α)) : Decoder α
  | _, _, .text (some s) => lookup table s
  | .text, _, .text none => .error .malformed
  | .text, _, .broken .none read _ | .text, _, .broken .text read _ => .error read
  | .text, 0, .object .. => .error .malformed
  | .text, _ + 1, .object [] ending => .error (ending.getD .malformed)
  | .text, _ + 1, .object ((key, d) :: ms) ending => do
    let a ← lookup table (← Draft.key key)
    nothing .text d
    if !ms.isEmpty then throw .malformed
    Draft.closed ending
    return a
  | .text, _, _ => .error .malformed
  | source, _, .object [(key, d)] none => do
    let a ← lookup table (← Draft.key key)
    nothing source d
    return a
  | _, _, d => d.refuse

/-- A field of a record that is being collected in `σ`. -/
structure Slot (σ : Type) where
  name : String
  /-- Whether a list of fields must reach this one even though an object may leave it out. -/
  listed : Bool
  decode : Source → Nat → Draft → σ → Except Fault σ

/-- A field and where its value goes. -/
def Slot.of {σ α : Type} (name : String) (decode : Decoder α) (put : α → σ → σ) : Slot σ :=
  ⟨name, false, fun source levels d parts => (decode source levels d).map (put · parts)⟩

/-- Collects the fields among the members of an object; other members are passed over. -/
def members {σ : Type} (slots : List (Slot σ)) (source : Source) (levels : Nat) :
    List (Except Fault String × Draft) → List String → σ → Except Fault σ
  | [], _, parts => .ok parts
  | (key, d) :: ms, seen, parts => do
    let name ← Draft.key key
    match slots.find? (·.name = name) with
    | none => do
      d.skip
      members slots source levels ms seen parts
    | some s => do
      if seen.contains name then throw .mismatch
      let parts ← s.decode source levels d parts
      members slots source levels ms (name :: seen) parts

/-- Collects the fields of a list of them. -/
def positions {σ : Type} (source : Source) (levels : Nat) (ending : Option Fault) :
    List (Slot σ) → List Draft → σ → Except Fault σ
  | slots, [], parts => do
    Draft.closed ending
    if slots.any (·.listed) then throw .mismatch
    return parts
  | [], _ :: _, _ => .error (if source = .text then .malformed else .mismatch)
  | s :: slots, d :: ds, parts => do
    let parts ← s.decode source levels d parts
    positions source levels ending slots ds parts

/-- A record with these fields, completed from those that were there. -/
def record {σ α : Type} (slots : List (Slot σ)) (start : σ) (finish : σ → Option α) : Decoder α
  | _, 0, .object .. | _, 0, .list .. => .error .malformed
  | source, levels + 1, .object ms ending => do
    let parts ← members slots source levels ms [] start
    Draft.closed ending
    match finish parts with
    | some a => return a
    | none => throw .mismatch
  | source, levels + 1, .list ds ending => do
    match finish (← positions source levels ending slots ds start) with
    | some a => return a
    | none => throw .mismatch
  | _, _, d => d.refuse

/-- The name of a kind. In text that was read in full it may also be given by its number. -/
def tag {α : Type} (kinds : List (String × α)) : Source → Draft → Except Fault α
  | _, .text (some s) => lookup kinds s
  | .buffered, .number (some (.int (.ofNat n))) | .tagged, .number (some (.int (.ofNat n))) =>
    match kinds[n]? with
    | some (_, a) => .ok a
    | none => .error .mismatch
  | _, d => d.refuse

/-- Finds the kind among the members of an object, and the members besides it. All of them are read
in full. -/
def tagMember {α : Type} (key : String) (kinds : List (String × α)) (source : Source)
    (levels : Nat) : List (Except Fault String × Draft) → Option α →
    Except Fault (Option α × List (Except Fault String × Draft))
  | [], found => .ok (found, [])
  | (k, d) :: ms, found => do
    if (← Draft.key k) = key then
      if found.isSome then throw .mismatch
      let a ← tag kinds source d
      tagMember key kinds source levels ms (some a)
    else
      let _ ← d.toJson levels
      let (found, rest) ← tagMember key kinds source levels ms found
      return (found, (k, d) :: rest)

/-- A value of several kinds. Its tag is a member of an object or the first item of a list; what is
left is decoded as its kind asks. -/
def tagged {α : Type} (key : String) (kinds : List (String × Decoder α)) : Decoder α
  | _, 0, .object .. | _, 0, .list .. => .error .malformed
  | source, levels + 1, .object ms ending => do
    let (found, rest) ← tagMember key kinds source levels ms none
    Draft.closed ending
    match found with
    | some decode => decode .tagged (levels + 1) (.object rest none)
    | none => throw .mismatch
  | source, levels + 1, .list ds ending =>
    match ds with
    | [] => do
      Draft.closed ending
      throw .mismatch
    | d :: ds => do
      let decode ← tag kinds source d
      let _ ← Draft.itemsToJson levels ds
      Draft.closed ending
      decode .tagged (levels + 1) (.list ds none)
  | _, _, d => d.refuse

/-- A value that is read in full before it is looked at. -/
def whole {α : Type} (f : Json → Option α) : Decoder α
  | _, levels, d => do
    match f (← d.toJson levels) with
    | some a => .ok a
    | none => .error .mismatch

end Decoder

/-- Decodes a text; nothing but blanks may follow. -/
def decodeText {α : Type} (decode : Decoder α) (s : String) : Except Fault α :=
  (Draft.ofText s).read (decode .text nestingLimit)

/-- Decodes a JSON value. -/
def decodeValue {α : Type} (decode : Decoder α) (j : Json) : Except Fault α :=
  let d := Draft.ofJson j
  decode .value d.depth d

end Criteria.Json
