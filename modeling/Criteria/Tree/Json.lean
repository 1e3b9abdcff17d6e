import Criteria.Json.Decoder
import Criteria.Tree
import Criteria.Value.Json
/-!
Rule trees as JSON. A node says by the member `kind` whether it is a condition or a group; the root
is a group without that member.
-/

namespace Criteria

open Json (Decoder Draft Fault Source)

namespace Combinator

def table : List (String × Combinator) := [and, or].map fun c => (c.name, c)

def decoder : Decoder Combinator := .name table

def toJson (c : Combinator) : Json := .text c.name

end Combinator

namespace Operator

def table : List (String × Operator) := all.map fun op => (op.name, op)

def decoder : Decoder Operator := .name table

def toJson (op : Operator) : Json := .text op.name

end Operator

namespace Condition

/-- The members of a condition. Absence of a value is null; absence of a combinator leaves it out.
-/
def members (c : Condition) : List (String × Json) :=
  [("id", .text c.id), ("fieldName", .text c.field), ("operator", c.operator.toJson),
    ("value", c.value.toJson)] ++ Json.optional "edgeCombinator" Combinator.toJson c.edge

def toJson (c : Condition) : Json := .object c.members

/-- What has been read of a condition. -/
structure Parts where
  id : Option String := none
  field : Option String := none
  operator : Option Operator := none
  value : Value := .null
  edge : Option Combinator := none

def slots : List (Decoder.Slot Parts) :=
  [.of "id" .string fun id p => { p with id := some id },
    .of "fieldName" .string fun field p => { p with field := some field },
    .of "operator" Operator.decoder fun op p => { p with operator := some op },
    .of "value" Value.decoder fun value p => { p with value },
    .of "edgeCombinator" (.option Combinator.decoder) fun edge p => { p with edge }]

def Parts.finish? (p : Parts) : Option Condition := do
  return ⟨← p.id, ← p.field, ← p.operator, p.value, p.edge⟩

def decoder : Decoder Condition := .record slots {} Parts.finish?

end Condition

namespace Header

/-- The members of a group around its children. -/
def members (h : Header) (children : Json) : List (String × Json) :=
  [("id", .text h.id), ("defaultCombinator", h.combinator.toJson), ("children", children)]
    ++ (if h.negated then [("negate", .bool true)] else [])
    ++ Json.optional "edgeCombinator" Combinator.toJson h.edge

end Header

namespace Node

mutual

def toJson : Node → Json
  | .condition c => .object (("kind", .text "condition") :: c.members)
  | .group h children =>
    .object (("kind", .text "group") :: h.members (.list (toJsons children)))

def toJsons : List Node → List Json
  | [] => []
  | n :: ns => n.toJson :: toJsons ns

end

end Node

namespace Group

def toJson (g : Group) : Json := .object (g.header.members (.list (Node.toJsons g.children)))

/-- What has been read of a group. -/
structure Parts where
  id : Option String := none
  combinator : Combinator := .and
  children : List Node := []
  negated : Bool := false
  edge : Option Combinator := none

/-- The fields of a group with a reader for its children. -/
def slots (children : Decoder (List Node)) : List (Decoder.Slot Parts) :=
  [.of "id" .string fun id p => { p with id := some id },
    .of "defaultCombinator" Combinator.decoder fun combinator p => { p with combinator },
    .of "children" children fun children p => { p with children },
    .of "negate" .bool fun negated p => { p with negated },
    .of "edgeCombinator" (.option Combinator.decoder) fun edge p => { p with edge }]

def Parts.finish? (p : Parts) : Option Group := do
  return ⟨⟨← p.id, p.combinator, p.negated, p.edge⟩, p.children⟩

/-- A group with a reader for its children. -/
def decoderWith (children : Decoder (List Node)) : Decoder Group :=
  .record (slots children) {} Parts.finish?

end Group

namespace Node

/-- A node with a reader for the children of a group. -/
def decoderWith (children : Decoder (List Node)) : Decoder Node :=
  .tagged "kind"
    [("condition", fun source levels d =>
        (Condition.decoder source levels d).map .condition),
      ("group", fun source levels d =>
        ((Group.decoderWith children) source levels d).map Group.toNode)]

/-- A list that must have no room for items: too deep in the text. -/
def tooDeep : Decoder (List Node)
  | _, _, .list .. => .error .malformed
  | _, _, d => d.refuse

/-- Reads a node. Its object is one level and the list of its children another. -/
def decode (source : Source) : Nat → Draft → Except Fault Node
  | 0, d => decoderWith tooDeep source 0 d
  | 1, d => decoderWith tooDeep source 1 d
  | levels + 2, d =>
    decoderWith (fun _ _ children =>
      match children with
      | .list ds ending => do
        let ns ← Decoder.items (decode .tagged levels) ds
        Draft.closed ending
        return ns
      | children => children.refuse) source (levels + 2) d

def decoder : Decoder Node := decode

end Node

namespace Group

def decoder : Decoder Group := decoderWith (.list Node.decoder)

end Group

end Criteria
