import Criteria.Json.Decoder
/-!
Findings: what a rule has to say about a node. The id of a finding is made of the rule, the node
and, if one rule can say several things about one node, a key.
-/

namespace Criteria

namespace Lint

inductive Level where
  | error
  | warning
  deriving DecidableEq

def Level.name : Level → String
  | error => "error"
  | warning => "warning"

structure Finding where
  id : String
  level : Level
  rule : String
  message : String
  nodeId : String
  /-- The ids from the root down to the node. -/
  path : List String
  suggestion : Option String
  deriving DecidableEq

namespace Finding

/-- A finding about the node at the end of a path. -/
def about (level : Level) (rule message : String) (path : List String) : Finding :=
  let nodeId := path.getLastD ""
  ⟨rule ++ ":" ++ nodeId, level, rule, message, nodeId, path, none⟩

def error (rule message : String) (path : List String) : Finding := .about .error rule message path

def warning (rule message : String) (path : List String) : Finding :=
  .about .warning rule message path

def suggest (suggestion : String) (f : Finding) : Finding :=
  { f with suggestion := some suggestion }

/-- Tells several findings of one rule on one node apart. -/
def withKey (key : String) (f : Finding) : Finding :=
  { f with id := f.rule ++ ":" ++ key ++ ":" ++ f.nodeId }

def isError (f : Finding) : Bool := f.level = .error

def toJson (f : Finding) : Json :=
  .object
    [("id", .text f.id), ("level", .text f.level.name), ("rule", .text f.rule),
      ("message", .text f.message), ("nodeId", .text f.nodeId),
      ("path", .list (f.path.map .text)), ("suggestion", Json.ofOption .text f.suggestion)]

structure Parts where
  id : Option String := none
  level : Option Level := none
  rule : Option String := none
  message : Option String := none
  nodeId : Option String := none
  path : Option (List String) := none
  suggestion : Option String := none

open Json (Decoder)

def decoder : Decoder Finding :=
  .record
    [.of "id" .string fun id p => { p with id := some id },
      .of "level" (.name [("error", Level.error), ("warning", .warning)]) fun level p =>
        { p with level := some level },
      .of "rule" .string fun rule p => { p with rule := some rule },
      .of "message" .string fun message p => { p with message := some message },
      .of "nodeId" .string fun nodeId p => { p with nodeId := some nodeId },
      .of "path" (.list .string) fun path p => { p with path := some path },
      { Decoder.Slot.of "suggestion" (.option .string) fun suggestion (p : Parts) =>
          { p with suggestion } with listed := true }]
    ({} : Parts) fun p => do
      return ⟨← p.id, ← p.level, ← p.rule, ← p.message, ← p.nodeId, ← p.path, p.suggestion⟩

end Finding

end Lint

end Criteria
