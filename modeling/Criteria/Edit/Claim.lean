import Criteria.Ids
/-!
Ids for nodes that enter a tree. A supplied id is kept if it is not blank and not taken; every other
node gets a fresh one. Ids are given out in document order.
-/

namespace Criteria

/-- A source of ids with the ids that are taken. -/
structure Claims where
  ids : IdSource
  taken : List String

namespace Claims

/-- Claims on a tree: all its ids are taken. -/
def ofTree (ids : IdSource) (t : Tree) : Claims := ⟨ids, t.ids⟩

/-- A fresh id, taken from now on. -/
def fresh (c : Claims) : String × Claims :=
  let (id, ids) := c.ids.fresh c.taken
  (id, ⟨ids, id :: c.taken⟩)

/-- A supplied id if it can be used, else a fresh one. -/
def claim (c : Claims) (id : String) : String × Claims :=
  if id ≠ "" ∧ ¬ c.taken.contains id then (id, { c with taken := id :: c.taken }) else c.fresh

end Claims

namespace Node

mutual

/-- The node with an id of its own for every node in it: `assign` gives the id of a node from the
one it has. -/
def relabel (assign : Claims → String → String × Claims) (c : Claims) : Node → Node × Claims
  | .condition d =>
    let (id, c) := assign c d.id
    (.condition { d with id }, c)
  | .group h children =>
    let (id, c) := assign c h.id
    let (children, c) := relabelAll assign c children
    (.group { h with id } children, c)

def relabelAll (assign : Claims → String → String × Claims) (c : Claims) :
    List Node → List Node × Claims
  | [] => ([], c)
  | n :: ns =>
    let (n, c) := n.relabel assign c
    let (ns, c) := relabelAll assign c ns
    (n :: ns, c)

end

/-- A copy with fresh ids throughout. -/
def copy (c : Claims) (n : Node) : Node × Claims := n.relabel (fun c _ => c.fresh) c

/-- The node with its usable ids kept. -/
def claimIds (c : Claims) (n : Node) : Node × Claims := n.relabel Claims.claim c

end Node

end Criteria
