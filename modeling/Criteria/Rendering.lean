import Criteria.Tree.Lookup
/-!
The common shape of all renderings of a tree: conditions are rendered one by one, and a group joins
what its children render to. Groups without conditions render to nothing and leave no trace.
-/

namespace Criteria

/-- How one kind of output is made up. -/
structure Rendering (α : Type) where
  condition : Condition → α
  /-- Joins the parts of a group with this combinator of its own; each part but the first comes with
  the combinator before it. -/
  join : Combinator → α → List (Combinator × α) → α
  /-- Sets a group inside another one apart. -/
  nest : α → α
  negate : α → α

namespace Rendering

/-- Parts with the combinator after each, taken as a first part and others with the combinator
before each. The last combinator leads nowhere. -/
def link {α : Type} : List (α × Combinator) → Option (α × List (Combinator × α))
  | [] => none
  | (a, c) :: rest => some (a, go c rest)
where
  go (c : Combinator) : List (α × Combinator) → List (Combinator × α)
    | [] => []
    | (b, d) :: rest => (c, b) :: go d rest

/-- The parts of a group as one. -/
def combine {α : Type} (r : Rendering α) (h : Header) (parts : List (α × Combinator)) :
    Option α :=
  (link parts).map fun (first, rest) =>
    let joined := r.join h.combinator first rest
    if h.negated then r.negate joined else joined

end Rendering

namespace Node

mutual

/-- A node inside a group. Nothing for a node without conditions. -/
def render? {α : Type} (r : Rendering α) : Node → Option α
  | .condition c => some (r.condition c)
  | .group h children =>
    (r.combine h (parts r h children)).map fun a => if h.negated then a else r.nest a

/-- The parts of a group, each with the combinator after it. -/
def parts {α : Type} (r : Rendering α) (h : Header) : List Node → List (α × Combinator)
  | [] => []
  | n :: ns =>
    match n.render? r with
    | some a => (a, n.edge.getD h.combinator) :: parts r h ns
    | none => parts r h ns

end

end Node

/-- The whole tree. Nothing for a tree without conditions. -/
def Group.render? {α : Type} (r : Rendering α) (t : Tree) : Option α :=
  r.combine t.header (Node.parts r t.header t.children)

end Criteria
