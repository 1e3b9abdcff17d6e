import Criteria.Catalog.Json
import Criteria.Document
import Criteria.Export.Json
/-!
The configuration of a project: a file in its folder, all of whose entries may be left out.
-/

namespace Criteria

namespace Project

structure Config where
  /-- The file of the field catalog, seen from the folder of the project. -/
  catalog : Path := ⟨"fields.json"⟩
  maxDepth : Option Nat := none
  historyLimit : Nat := History.defaultLimit
  /-- The formats that trees are compiled to. -/
  emit : List Export.Format := [.readable, .sql, .mongo]
  /-- The pattern of dates in readable text. -/
  dateFormat : Option String := none
  /-- The rules of the linter that are left out. -/
  disabledRules : List String := []
  /-- The folder for what is compiled. -/
  outDir : Option Path := none
  deriving DecidableEq

namespace Config

def fileName : String := "rulecraft.config.json"

open Json (Decoder)

def path : Decoder Path := .checked .string fun s => some ⟨s⟩

def format : Decoder Export.Format := .name (Export.Format.all.map fun f => (f.name, f))

def decoder : Decoder Config :=
  .record
    [.of "catalog" path fun catalog c => { c with catalog },
      .of "maxDepth" (.option .natural) fun maxDepth c => { c with maxDepth },
      .of "historyLimit" .natural fun historyLimit c => { c with historyLimit },
      .of "emit" (.list format) fun emit c => { c with emit },
      .of "dateFormat" (.option .string) fun dateFormat c => { c with dateFormat },
      .of "disabledRules" (.list .string) fun disabledRules c => { c with disabledRules },
      .of "outDir" (.option path) fun outDir c => { c with outDir }]
    ({} : Config) some

def toJson (c : Config) : Json :=
  .object <| ("catalog", .text c.catalog.text) :: Json.optional "maxDepth" .ofNat c.maxDepth
    ++ [("historyLimit", .ofNat c.historyLimit),
      ("emit", .list (c.emit.map fun f => .text f.name))]
    ++ Json.optional "dateFormat" .text c.dateFormat
    ++ [("disabledRules", .list (c.disabledRules.map .text))]
    ++ Json.optional "outDir" (fun (p : Path) => .text p.text) c.outDir

/-- Where the catalog is. -/
def catalogPath (c : Config) (dir : Path) : Path := dir.join c.catalog

/-- Takes the catalog of a path that was given from outside, if there is one. -/
def withCatalog (c : Config) (dir : Path) : Option Path → Config
  | none => c
  | some p => { c with catalog := dir.join p }

def documentOptions (c : Config) : Document.Options :=
  { maxDepth := c.maxDepth, historyLimit := c.historyLimit }

def lintOptions (c : Config) : Lint.Options :=
  { Lint.Options.standard with disabled := c.disabledRules }

def exportOptions (c : Config) : Export.Options :=
  match c.dateFormat with
  | none => {}
  | some dateFormat => { readable := { dateFormat } }

end Config

section Reading

variable {m : Type → Type} [Monad m]

/-- The configuration in a folder, or the usual one if there is none. -/
def readConfig (s : Storage m) (dir : Path) : ExceptT String m Config := do
  let path := dir.join ⟨Config.fileName⟩
  if (← s.kind? path).isNone then return {}
  let text ← ExceptT.mk (s.read path)
  match Json.decodeText Config.decoder text with
  | .ok c => return c
  | .error fault => throw ("Invalid " ++ Config.fileName ++ ": " ++ fault.message)

/-- The catalog of a project, which is empty if its file is not there. -/
def readCatalog (s : Storage m) (dir : Path) (c : Config) : ExceptT String m Catalog := do
  let path := c.catalogPath dir
  let refuse (reason : String) : ExceptT String m Catalog :=
    throw ("Cannot load catalog " ++ path.text ++ ": " ++ reason)
  if (← s.kind? path).isNone then return ⟨[]⟩
  match ← ExceptT.lift (s.read path) with
  | .error message => refuse ("IO error: " ++ message)
  | .ok text =>
    match Json.decodeText Catalog.decoder text with
    | .ok catalog => return catalog
    | .error fault => refuse ("JSON error: " ++ fault.message)

end Reading

end Project

end Criteria
