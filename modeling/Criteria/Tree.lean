import Criteria.Operator
import Criteria.Value
/-!
Rule trees. A tree is a group of nodes; a node is a condition or a group. Between two neighbours of
a group stands a combinator: that of the left one if it has its own, else that of the group.
-/

namespace Criteria

inductive Combinator where
  | and
  | or
  deriving DecidableEq, Inhabited

namespace Combinator

def name : Combinator → String
  | and => "AND"
  | or => "OR"

/-- The combinator that all of a list are, if there is one. -/
def uniform? : List Combinator → Option Combinator
  | [] => none
  | c :: cs => if cs.all (· = c) then some c else none

end Combinator

/-- One field compared with a value. -/
structure Condition where
  id : String
  field : String
  operator : Operator
  value : Value
  /-- The combinator towards the next neighbour, if it is not that of the group. -/
  edge : Option Combinator
  deriving DecidableEq

/-- What a group has besides its children. -/
structure Header where
  id : String
  /-- The combinator between children that have none of their own. -/
  combinator : Combinator
  negated : Bool
  edge : Option Combinator
  deriving DecidableEq

inductive Node where
  | condition (c : Condition)
  | group (header : Header) (children : List Node)

namespace Node

mutual

def decEq : (a b : Node) → Decidable (a = b)
  | .condition c, .condition d =>
    if h : c = d then isTrue (by rw [h]) else isFalse (by simpa using h)
  | .group h xs, .group k ys =>
    match decEqNodes xs ys with
    | isTrue e =>
      if f : h = k then isTrue (by rw [e, f]) else isFalse (by simp [f])
    | isFalse e => isFalse (by simp [e])
  | .condition _, .group .. | .group .., .condition _ => isFalse (by simp)

def decEqNodes : (a b : List Node) → Decidable (a = b)
  | [], [] => isTrue rfl
  | [], _ :: _ | _ :: _, [] => isFalse (by simp)
  | x :: xs, y :: ys =>
    match decEq x y, decEqNodes xs ys with
    | isTrue h, isTrue k => isTrue (by rw [h, k])
    | isFalse h, _ => isFalse (by simp [h])
    | _, isFalse k => isFalse (by simp [k])

end

instance : DecidableEq Node := decEq

instance : Inhabited Node := ⟨.group ⟨"", .and, false, none⟩ []⟩

def id : Node → String
  | .condition c => c.id
  | .group h _ => h.id

def edge : Node → Option Combinator
  | .condition c => c.edge
  | .group h _ => h.edge

def withEdge (e : Option Combinator) : Node → Node
  | .condition c => .condition { c with edge := e }
  | .group h children => .group { h with edge := e } children

end Node

/-- A group outside of any other; the root of a tree is one. -/
structure Group where
  header : Header
  children : List Node
  deriving DecidableEq

/-- A rule tree is its root group. -/
abbrev Tree := Group

namespace Group

def id (g : Group) : String := g.header.id

/-- A group without children. -/
def empty (id : String) : Group := ⟨⟨id, .and, false, none⟩, []⟩

def toNode (g : Group) : Node := .group g.header g.children

def isEmpty (g : Group) : Bool := g.children.isEmpty

/-- The combinator from a child towards its right neighbour, whether or not it has one. -/
def combinatorOf (g : Group) (child : Node) : Combinator := child.edge.getD g.header.combinator

/-- The combinator between the child at an index and the next one; the last child has none. -/
def connector? (g : Group) (index : Nat) : Option Combinator :=
  if index + 1 < g.children.length then g.children[index]?.map g.combinatorOf else none

/-- The combinators between neighbours, from the left. -/
def connectors (g : Group) : List Combinator := g.children.dropLast.map g.combinatorOf

/-- The index of the first child with an id. -/
def position? (g : Group) (id : String) : Option Nat := g.children.findIdx? (·.id = id)

end Group

namespace Node

def toGroup? : Node → Option Group
  | .group h children => some ⟨h, children⟩
  | .condition _ => none

def toCondition? : Node → Option Condition
  | .condition c => some c
  | .group .. => none

end Node

end Criteria
