import Criteria.Tree.Lookup
/-!
Places in a tree and what stands there. An edit finds a group, makes another group of it and puts
that in its place; the nodes off the way to it stay as they are.
-/

namespace Criteria

/-- Why an edit is rejected. -/
inductive EditError where
  | nodeNotFound (id : String)
  | groupNotFound (id : String)
  | notAGroup (id : String)
  | notACondition (id : String)
  /-- A group would be moved into itself. -/
  | cycle
  /-- The root cannot be moved, copied or deleted. -/
  | root
  | tooDeep (max : Nat)
  | emptyCatalog
  deriving DecidableEq

namespace EditError

def message : EditError → String
  | nodeNotFound id => "Node not found: " ++ id
  | groupNotFound id => "Group not found: " ++ id
  | notAGroup id => "Node is not a group: " ++ id
  | notACondition id => "Node is not a condition: " ++ id
  | cycle => "Would create cycle"
  | root => "The root group cannot be moved, cloned or deleted"
  | tooDeep max =>
    "Group nesting would exceed the maximum depth of " ++ Decimal.natText max
  | emptyCatalog => "Field catalog is empty"

end EditError

namespace Node

mutual

/-- Puts a group in the place of the first group with an id. Nothing if there is none. -/
def replace? (id : String) (new : Group) : Node → Option Node
  | .condition _ => none
  | .group h children =>
    if h.id = id then some new.toNode else (replaceAmong? id new children).map (.group h)

def replaceAmong? (id : String) (new : Group) : List Node → Option (List Node)
  | [] => none
  | n :: ns =>
    match n.replace? id new with
    | some n => some (n :: ns)
    | none => (replaceAmong? id new ns).map (n :: ·)

end

end Node

/-- A node among its neighbours. -/
structure Place where
  header : Header
  before : List Node
  node : Node
  after : List Node

namespace Place

/-- The place of the first of several children with an id. -/
def among? (header : Header) (id : String) : List Node → List Node → Option Place
  | _, [] => none
  | before, n :: ns =>
    if n.id = id then some ⟨header, before.reverse, n, ns⟩ else among? header id (n :: before) ns

/-- The group with other nodes in the place of the node. -/
def fill (p : Place) (nodes : List Node) : Group := ⟨p.header, p.before ++ nodes ++ p.after⟩

end Place

namespace Group

/-- The place of the first child with an id. -/
def place? (g : Group) (id : String) : Option Place := Place.among? g.header id [] g.children

/-- The tree with a group in the place of the first group with an id. -/
def replace (t : Tree) (id : String) (new : Group) : Tree :=
  ((t.toNode.replace? id new).bind Node.toGroup?).getD t

/-- The group with an id. -/
def group (t : Tree) (id : String) : Except EditError Group :=
  match t.findGroup? id with
  | some g => .ok g
  | none => .error (if t.containsId id then .notAGroup id else .groupNotFound id)

/-- Puts what an edit makes of the group with an id in its place, unless the edit fails. -/
def rewriteGroup (t : Tree) (id : String) (f : Group → Except EditError Group) :
    Except EditError Tree := do
  let g ← t.group id
  return t.replace id (← f g)

/-- Makes another group of the group with an id. -/
def editGroup (t : Tree) (id : String) (f : Group → Group) : Except EditError Tree :=
  t.rewriteGroup id fun g => .ok (f g)

/-- The place of a node below the root. -/
def place (t : Tree) (id : String) : Except EditError Place :=
  if t.id = id then .error .root
  else match t.parent? id with
    | none => .error (.nodeNotFound id)
    | some parent => do
      let g ← t.group parent.id
      match g.place? id with
      | some p => .ok p
      | none => .error (.nodeNotFound id)

/-- Puts what an edit makes of a node below the root and its neighbours in their place, unless the
edit fails. -/
def rewriteSiblings (t : Tree) (id : String) (f : Place → Except EditError (List Node)) :
    Except EditError Tree := do
  let p ← t.place id
  return t.replace p.header.id ⟨p.header, ← f p⟩

/-- Puts other nodes in the place of a node below the root. -/
def editPlace (t : Tree) (id : String) (f : Place → List Node) : Except EditError Tree :=
  t.rewriteSiblings id fun p => .ok (p.before ++ f p ++ p.after)

end Group

end Criteria
