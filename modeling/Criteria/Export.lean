import Criteria.Json.Writer
import Criteria.Mongo
import Criteria.Readable
import Criteria.Sql.Compile
import Criteria.Tree.Json
/-!
Exporting a tree to all formats at once or to one of them.
-/

namespace Criteria.Export

inductive Format where
  | readable
  | sql
  | mongo
  | json
  deriving DecidableEq

namespace Format

def all : List Format := [readable, sql, mongo, json]

def name : Format → String
  | readable => "readable"
  | sql => "sql"
  | mongo => "mongo"
  | json => "json"

/-- The usual ending of a file of this format. -/
def extension : Format → String
  | readable => "txt"
  | sql => "sql"
  | mongo => "mongo.json"
  | json => "json"

/-- The format of a name, blanks around it and case apart. -/
def ofName? (s : String) : Option Format :=
  let key := (Text.trim s.toList).map Char.toLower
  all.find? (·.name.toList = key)

end Format

structure Options where
  readable : Readable.Options := {}
  sql : Sql.Options := {}
  mongo : Mongo.Options := {}
  deriving DecidableEq

/-- Why an export fails. -/
inductive Error where
  | unknownFormat (name : String)
  | backend (name message : String)
  deriving DecidableEq

def Error.message : Error → String
  | unknownFormat name => "Unknown export format '" ++ name ++ "'"
  | backend name message => "Backend '" ++ name ++ "' failed: " ++ message

/-- The format of a name. -/
def format (name : String) : Except Error Format :=
  match Format.ofName? name with
  | some f => .ok f
  | none => .error (.unknownFormat name)

inductive Output where
  | text (s : String)
  | json (j : Json)

namespace Output

def isText : Output → Bool
  | text _ => true
  | json _ => false

/-- Text as it is, JSON without blanks. -/
def display : Output → String
  | text s => s
  | json j => j.render

/-- Text as it is, JSON indented. -/
def pretty : Output → String
  | text s => s
  | json j => j.renderPretty

end Output

/-- The tree's own JSON with the members of all objects in the order of their keys. -/
def treeJson (t : Tree) : Json := t.toJson.sorted

/-- A tree in all formats. -/
structure Bundle where
  readable : String
  sql : String
  mongo : Json
  json : Json

namespace Bundle

def get (b : Bundle) : Format → Output
  | .readable => .text b.readable
  | .sql => .text b.sql
  | .mongo => .json b.mongo
  | .json => .json b.json

end Bundle

/-- Exports a tree to one format. -/
def one (t : Tree) (catalog : Catalog) (format : Format) (options : Options) : Output :=
  match format with
  | .readable => .text (Readable.compile t catalog options.readable)
  | .sql => .text (Sql.compile t catalog options.sql)
  | .mongo => .json (Mongo.compile t catalog options.mongo)
  | .json => .json (treeJson t)

/-- Exports a tree to all formats. -/
def all (t : Tree) (catalog : Catalog) (options : Options) : Bundle where
  readable := Readable.compile t catalog options.readable
  sql := Sql.compile t catalog options.sql
  mongo := Mongo.compile t catalog options.mongo
  json := treeJson t

/-- A format that the caller brings along. -/
structure Backend (α : Type) where
  name : String
  compile : Tree → Except String α

/-- Exports a tree to a format of the caller's. -/
def Backend.run {α : Type} (b : Backend α) (t : Tree) : Except Error α :=
  match b.compile t with
  | .ok a => .ok a
  | .error message => .error (.backend b.name message)

/-- Whether a tree has anything to export. -/
def canExport (t : Tree) : Bool := 0 < t.conditionCount

end Criteria.Export
