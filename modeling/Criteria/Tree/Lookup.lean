import Criteria.Tree
/-!
Looking into a tree. All searches go through it in document order, a group before its children, and
stop at the first node with the id, so they are meaningful also when an id occurs twice.
-/

namespace Criteria

namespace Node

mutual

/-- The ids of a node and of all below it, in document order. -/
def ids : Node → List String
  | .condition c => [c.id]
  | .group h children => h.id :: idsOf children

def idsOf : List Node → List String
  | [] => []
  | n :: ns => n.ids ++ idsOf ns

end

mutual

/-- The conditions of a node, in document order. -/
def conditions : Node → List Condition
  | .condition c => [c]
  | .group _ children => conditionsOf children

def conditionsOf : List Node → List Condition
  | [] => []
  | n :: ns => n.conditions ++ conditionsOf ns

end

mutual

/-- The number of conditions in a node. -/
def conditionCount : Node → Nat
  | .condition _ => 1
  | .group _ children => conditionCountOf children

def conditionCountOf : List Node → Nat
  | [] => 0
  | n :: ns => n.conditionCount + conditionCountOf ns

end

mutual

/-- The greatest number of groups around one another. -/
def height : Node → Nat
  | .condition _ => 0
  | .group _ children => heightOf children + 1

def heightOf : List Node → Nat
  | [] => 0
  | n :: ns => max n.height (heightOf ns)

end

mutual

/-- The first node with an id. -/
def find? (id : String) : Node → Option Node
  | .condition c => if c.id = id then some (.condition c) else none
  | .group h children =>
    if h.id = id then some (.group h children) else findAmong? id children

def findAmong? (id : String) : List Node → Option Node
  | [] => none
  | n :: ns => (n.find? id).or (findAmong? id ns)

end

mutual

/-- The ids from a node down to the first node with an id. -/
def path? (id : String) : Node → Option (List String)
  | .condition c => if c.id = id then some [id] else none
  | .group h children =>
    if h.id = id then some [id] else (pathAmong? id children).map (h.id :: ·)

def pathAmong? (id : String) : List Node → Option (List String)
  | [] => none
  | n :: ns => (n.path? id).or (pathAmong? id ns)

end

mutual

/-- The first group that has a child with an id. A group's own children come before those of the
groups among them. -/
def parent? (id : String) : Node → Option Group
  | .condition _ => none
  | .group h children =>
    if children.any (·.id = id) then some ⟨h, children⟩ else parentAmong? id children

def parentAmong? (id : String) : List Node → Option Group
  | [] => none
  | n :: ns => (n.parent? id).or (parentAmong? id ns)

end

end Node

namespace Group

/-- The ids of all nodes, the root's first. -/
def ids (t : Tree) : List String := t.toNode.ids

/-- The conditions of the tree. -/
def conditions (t : Tree) : List Condition := Node.conditionsOf t.children

def conditionCount (t : Tree) : Nat := Node.conditionCountOf t.children

/-- The greatest number of groups around one another, the root included. -/
def height (t : Tree) : Nat := t.toNode.height

/-- The first node below the root with an id. -/
def find? (t : Tree) (id : String) : Option Node := Node.findAmong? id t.children

/-- The first node with an id, the root included, if it is a group. -/
def findGroup? (t : Tree) (id : String) : Option Group :=
  if t.id = id then some t else (t.find? id).bind (·.toGroup?)

/-- The first node below the root with an id, if it is a condition. -/
def findCondition? (t : Tree) (id : String) : Option Condition :=
  (t.find? id).bind (·.toCondition?)

def containsId (t : Tree) (id : String) : Bool := t.id = id || (t.find? id).isSome

/-- The group that has a child with an id. -/
def parent? (t : Tree) (id : String) : Option Group := t.toNode.parent? id

/-- The ids from the root down to the first node with an id. -/
def path? (t : Tree) (id : String) : Option (List String) := t.toNode.path? id

/-- How many groups the first node with an id lies in; the root lies in none. -/
def depth? (t : Tree) (id : String) : Option Nat := (t.path? id).map (·.length - 1)

end Group

end Criteria
