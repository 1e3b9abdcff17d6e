import Criteria.SavedQuery
import Criteria.Tree.Json
/-!
Saved queries as JSON, and the texts that hold a tree: a saved query or a bare tree.
-/

namespace Criteria

open Json (Decoder)

namespace SavedQuery

def toJson (q : SavedQuery) : Json :=
  .object <| ("name", .text q.name) :: Json.optional "description" .text q.description
    ++ (if q.tags.isEmpty then [] else [("tags", .list (q.tags.map .text))])
    ++ [("tree", q.tree.toJson), ("createdAt", .text q.createdAt.text),
      ("updatedAt", .text q.updatedAt.text)]

structure Parts where
  name : Option String := none
  description : Option String := none
  tags : List String := []
  tree : Option Tree := none
  createdAt : Option Timestamp := none
  updatedAt : Option Timestamp := none

def time : Decoder Timestamp := .checked .string Timestamp.ofText?

def decoder : Decoder SavedQuery :=
  .record
    [.of "name" .string fun name p => { p with name := some name },
      .of "description" (.option .string) fun description p => { p with description },
      .of "tags" (.list .string) fun tags p => { p with tags },
      .of "tree" Group.decoder fun tree p => { p with tree := some tree },
      .of "createdAt" time fun t p => { p with createdAt := some t },
      .of "updatedAt" time fun t p => { p with updatedAt := some t }]
    ({} : Parts) fun p => do
      return ⟨← p.name, p.description, p.tags, ← p.tree, ← p.createdAt, ← p.updatedAt⟩

/-- Reads the text of a saved query. -/
def ofText (s : String) : Except Json.Fault SavedQuery := Json.decodeText decoder s

end SavedQuery

namespace Group

/-- A tree on its own or in a saved query. All of the text is read before it is told which. -/
def storedDecoder : Decoder Tree
  | _, levels, d => do
    let _ ← d.toJson levels
    match SavedQuery.decoder .buffered levels d with
    | .ok q => .ok q.tree
    | .error _ =>
      match Group.decoder .buffered levels d with
      | .ok t => .ok t
      | .error _ => .error .mismatch

/-- Reads the text of a tree, or the tree in the text of a saved query. -/
def ofText (s : String) : Except Json.Fault Tree := Json.decodeText storedDecoder s

end Group

end Criteria
