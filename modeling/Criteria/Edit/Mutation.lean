import Criteria.Catalog
import Criteria.Edit.Claim
import Criteria.Edit.Place
/-!
Edits of a rule tree. A mutation names the node or group it is about; applying it gives another tree
or the reason why it is rejected, and the source of ids as it has become either way.
-/

namespace Criteria

/-- The parts of a condition to change. An id is accepted and has no effect. -/
structure ConditionPatch where
  id : Option String := none
  field : Option String := none
  operator : Option Operator := none
  value : Option Value := none
  edge : Option Combinator := none
  deriving DecidableEq

namespace ConditionPatch

def apply (p : ConditionPatch) (c : Condition) : Condition where
  id := c.id
  field := p.field.getD c.field
  operator := p.operator.getD c.operator
  value := p.value.getD c.value
  edge := p.edge.or c.edge

end ConditionPatch

/-- The parts of a group to change. An id is accepted and has no effect. -/
structure GroupPatch where
  id : Option String := none
  combinator : Option Combinator := none
  negated : Option Bool := none
  edge : Option Combinator := none
  deriving DecidableEq

namespace GroupPatch

def apply (p : GroupPatch) (g : Group) : Group where
  header :=
    { id := g.header.id
      combinator := p.combinator.getD g.header.combinator
      negated := p.negated.getD g.header.negated
      edge := p.edge.or g.header.edge }
  children := g.children

end GroupPatch

inductive Mutation where
  /-- Appends a condition to a group, one on the first field of the catalog if none is given. -/
  | addCondition (group : String) (condition : Option Condition)
  /-- Appends a group to a group, an empty one if none is given. -/
  | addGroup (group : String) (child : Option Group)
  | updateCondition (node : String) (patch : ConditionPatch)
  | updateGroup (group : String) (patch : GroupPatch)
  | deleteNode (node : String)
  /-- Puts a copy right after a node, or right before it. -/
  | cloneNode (node : String) (after : Bool)
  /-- Takes a node out and puts it into a group, at an index or at the end. -/
  | moveNode (node : String) (group : String) (index : Nat)
  | setCombinator (group : String) (combinator : Combinator)
  /-- Sets or clears the combinator after a node. -/
  | setEdge (node : String) (edge : Option Combinator)
  | toggleNegation (group : String)
  deriving DecidableEq

/-- What an edit may need besides the tree and a source of ids. -/
structure EditContext where
  catalog : Catalog
  today : Date
  /-- The greatest depth of a group; the root has depth 0. -/
  maxDepth : Option Nat

namespace Group

def append (child : Node) (g : Group) : Group := { g with children := g.children ++ [child] }

/-- The group with a child put in at an index, or at the end if there are fewer children. -/
def insert (index : Nat) (child : Node) (g : Group) : Group :=
  { g with children := g.children.take index ++ child :: g.children.drop index }

def toggleNegation (g : Group) : Group :=
  { g with header := { g.header with negated := !g.header.negated } }

/-- Changes the condition with an id. -/
def updateCondition (t : Tree) (id : String) (patch : ConditionPatch) : Except EditError Tree :=
  if (t.findCondition? id).isSome then
    t.editPlace id fun p =>
      match p.node with
      | .condition c => [.condition (patch.apply c)]
      | .group .. => [p.node]
  else .error (if t.containsId id then .notACondition id else .nodeNotFound id)

def deleteNode (t : Tree) (id : String) : Except EditError Tree := t.editPlace id fun _ => []

def setEdge (t : Tree) (id : String) (edge : Option Combinator) : Except EditError Tree :=
  t.editPlace id fun p => [p.node.withEdge edge]

def moveNode (t : Tree) (id target : String) (index : Nat) : Except EditError Tree :=
  if t.id = id then .error .root
  else match t.find? id with
    | none => .error (.nodeNotFound id)
    | some node =>
      match t.path? target with
      | none => .error (.groupNotFound target)
      | some path =>
        if path.contains id then .error .cycle
        else if (t.findGroup? target).isNone then .error (.notAGroup target)
        else do
          let detached ← t.deleteNode id
          detached.editGroup target (Group.insert index node)

/-- Puts a copy beside a node. -/
def cloneNode (t : Tree) (id : String) (after : Bool) (ids : IdSource) :
    Except EditError Tree × IdSource :=
  match t.place id with
  | .error e => (.error e, ids)
  | .ok p =>
    let (copy, c) := p.node.copy (.ofTree ids t)
    let nodes := if after then [p.node, copy] else [copy, p.node]
    (.ok (t.replace p.header.id (p.fill nodes)), c.ids)

/-- The condition that is added when none is given: the first field with its first operator and its
initial value. -/
def newCondition (ctx : EditContext) (c : Claims) : Except EditError (Node × Claims) :=
  match ctx.catalog.first? with
  | none => .error .emptyCatalog
  | some f =>
    let (id, c) := c.fresh
    let operator := f.operators.head?.getD .equals
    .ok (.condition ⟨id, f.name, operator, f.initialValue ctx.today, none⟩, c)

def addCondition (t : Tree) (group : String) (condition : Option Condition) (ctx : EditContext)
    (ids : IdSource) : Except EditError Tree × IdSource :=
  let claims := Claims.ofTree ids t
  let added : Except EditError (Node × Claims) := match condition with
    | some d => .ok ((Node.condition d).claimIds claims)
    | none => newCondition ctx claims
  match added with
  | .error e => (.error e, ids)
  | .ok (node, c) => (t.editGroup group (Group.append node), c.ids)

def addGroup (t : Tree) (group : String) (child : Option Group) (ctx : EditContext)
    (ids : IdSource) : Except EditError Tree × IdSource :=
  match t.group group with
  | .error e => (.error e, ids)
  | .ok _ =>
    let claims := Claims.ofTree ids t
    let (node, c) := match child with
      | some g => g.toNode.claimIds claims
      | none => let (id, c) := claims.fresh; ((Group.empty id).toNode, c)
    match ctx.maxDepth.filter (· < (t.depth? group).getD 0 + node.height) with
    | some max => (.error (.tooDeep max), c.ids)
    | none => (t.editGroup group (Group.append node), c.ids)

end Group

namespace Mutation

/-- Applies a mutation to a tree. -/
def apply (ctx : EditContext) (ids : IdSource) (t : Tree) :
    Mutation → Except EditError Tree × IdSource
  | addCondition group condition => t.addCondition group condition ctx ids
  | addGroup group child => t.addGroup group child ctx ids
  | updateCondition node patch => (t.updateCondition node patch, ids)
  | updateGroup group patch => (t.editGroup group patch.apply, ids)
  | deleteNode node => (t.deleteNode node, ids)
  | cloneNode node after => t.cloneNode node after ids
  | moveNode node group index => (t.moveNode node group index, ids)
  | setCombinator group combinator =>
    (t.editGroup group { combinator := some combinator : GroupPatch }.apply, ids)
  | setEdge node edge => (t.setEdge node edge, ids)
  | toggleNegation group => (t.editGroup group Group.toggleNegation, ids)

/-- The tree after a mutation, or as it was if the mutation is rejected. -/
def applyOrKeep (ctx : EditContext) (ids : IdSource) (t : Tree) (m : Mutation) : Tree × IdSource :=
  let (result, ids) := m.apply ctx ids t
  (result.toOption.getD t, ids)

/-- A short description for the history. -/
def label : Mutation → String
  | addCondition .. => "Add condition"
  | addGroup .. => "Add group"
  | updateCondition .. => "Update condition"
  | updateGroup .. => "Update group"
  | deleteNode _ => "Delete"
  | cloneNode .. => "Duplicate"
  | moveNode .. => "Move"
  | setCombinator .. => "Change combinator"
  | setEdge .. => "Change connector"
  | toggleNegation _ => "Toggle NOT"

end Mutation

end Criteria
