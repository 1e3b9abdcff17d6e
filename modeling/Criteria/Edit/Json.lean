import Criteria.Edit.Mutation
import Criteria.Tree.Json
/-!
Mutations as JSON. The member `type` tells which one it is.
-/

namespace Criteria

open Json (Decoder)

namespace ConditionPatch

def toJson (p : ConditionPatch) : Json :=
  .object <| Json.optional "id" .text p.id ++ Json.optional "fieldName" .text p.field
    ++ Json.optional "operator" Operator.toJson p.operator
    ++ Json.optional "value" Value.toJson p.value
    ++ Json.optional "edgeCombinator" Combinator.toJson p.edge

def decoder : Decoder ConditionPatch :=
  .record
    [.of "id" (.option .string) fun id p => { p with id },
      .of "fieldName" (.option .string) fun field p => { p with field },
      .of "operator" (.option Operator.decoder) fun operator p => { p with operator },
      .of "value" (.option Value.decoder) fun value p => { p with value },
      .of "edgeCombinator" (.option Combinator.decoder) fun edge p => { p with edge }]
    {} some

end ConditionPatch

namespace GroupPatch

def toJson (p : GroupPatch) : Json :=
  .object <| Json.optional "id" .text p.id
    ++ Json.optional "defaultCombinator" Combinator.toJson p.combinator
    ++ Json.optional "negate" .bool p.negated
    ++ Json.optional "edgeCombinator" Combinator.toJson p.edge

def decoder : Decoder GroupPatch :=
  .record
    [.of "id" (.option .string) fun id p => { p with id },
      .of "defaultCombinator" (.option Combinator.decoder) fun combinator p =>
        { p with combinator },
      .of "negate" (.option .bool) fun negated p => { p with negated },
      .of "edgeCombinator" (.option Combinator.decoder) fun edge p => { p with edge }]
    {} some

end GroupPatch

namespace Mutation

def toJson : Mutation → Json
  | addCondition group condition =>
    .object [("type", .text "addCondition"), ("groupId", .text group),
      ("condition", Json.ofOption Condition.toJson condition)]
  | addGroup group child =>
    .object [("type", .text "addGroup"), ("groupId", .text group),
      ("group", Json.ofOption Group.toJson child)]
  | updateCondition node patch =>
    .object [("type", .text "updateCondition"), ("nodeId", .text node), ("patch", patch.toJson)]
  | updateGroup group patch =>
    .object [("type", .text "updateGroup"), ("nodeId", .text group), ("patch", patch.toJson)]
  | deleteNode node => .object [("type", .text "deleteNode"), ("nodeId", .text node)]
  | cloneNode node after =>
    .object [("type", .text "cloneNode"), ("nodeId", .text node), ("insertAfter", .bool after)]
  | moveNode node group index =>
    .object [("type", .text "moveNode"), ("nodeId", .text node), ("targetGroupId", .text group),
      ("index", .ofNat index)]
  | setCombinator group combinator =>
    .object [("type", .text "setDefaultCombinator"), ("groupId", .text group),
      ("combinator", combinator.toJson)]
  | setEdge node edge =>
    .object [("type", .text "setEdgeCombinator"), ("nodeId", .text node),
      ("combinator", Json.ofOption Combinator.toJson edge)]
  | toggleNegation group => .object [("type", .text "toggleNegate"), ("groupId", .text group)]

/-- What has been read of a mutation: the node or group it is about, and one part besides. -/
structure Parts (α : Type) where
  about : Option String := none
  part : Option α := none

/-- A mutation about a node or group with no other field. -/
def about (key : String) (make : String → Mutation) : Decoder Mutation :=
  .record [.of key .string fun id (_ : Option String) => some id] none (·.map make)

/-- A mutation about a node or group with one other field, which `absent` stands in for. -/
def aboutWith {α : Type} (key : String) (other : String) (decode : Decoder α) (absent : Option α)
    (make : String → α → Mutation) : Decoder Mutation :=
  .record
    [.of key .string fun id (p : Parts α) => { p with about := some id },
      .of other decode fun a p => { p with part := some a }]
    {} fun p => do return make (← p.about) (← p.part.or absent)

structure MoveParts where
  node : Option String := none
  group : Option String := none
  index : Option Nat := none

def moveDecoder : Decoder Mutation :=
  .record
    [.of "nodeId" .string fun id (p : MoveParts) => { p with node := some id },
      .of "targetGroupId" .string fun id p => { p with group := some id },
      .of "index" .natural fun n p => { p with index := some n }]
    {} fun p => do return .moveNode (← p.node) (← p.group) (← p.index)

def decoder : Decoder Mutation :=
  .tagged "type"
    [("addCondition",
        aboutWith "groupId" "condition" (.option Condition.decoder) (some none) .addCondition),
      ("addGroup", aboutWith "groupId" "group" (.option Group.decoder) (some none) .addGroup),
      ("updateCondition", aboutWith "nodeId" "patch" ConditionPatch.decoder none .updateCondition),
      ("updateGroup", aboutWith "nodeId" "patch" GroupPatch.decoder none .updateGroup),
      ("deleteNode", about "nodeId" .deleteNode),
      ("cloneNode", aboutWith "nodeId" "insertAfter" .bool (some true) .cloneNode),
      ("moveNode", moveDecoder),
      ("setDefaultCombinator",
        aboutWith "groupId" "combinator" Combinator.decoder none .setCombinator),
      ("setEdgeCombinator",
        aboutWith "nodeId" "combinator" (.option Combinator.decoder) (some none) .setEdge),
      ("toggleNegate", about "groupId" .toggleNegation)]

end Mutation

end Criteria
