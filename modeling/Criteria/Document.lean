import Criteria.Edit.Mutation
import Criteria.Export
import Criteria.History
import Criteria.Lint
import Criteria.SavedQuery.Json
import Criteria.Storage
/-!
Documents: a tree that is being edited, with its catalog, its undo history and the findings of the
linter on it. Whatever changes the tree, the catalog or the options of the linter has the tree
linted again. A document may be backed by a file that holds a bare tree or a saved query.
-/

namespace Criteria

namespace Document

structure Options where
  /-- How deep groups may lie; the root is at depth 0. -/
  maxDepth : Option Nat := none
  historyLimit : Nat := History.defaultLimit
  /-- The namespace of the ids of new nodes. -/
  space : String := IdSource.defaultNamespace
  deriving DecidableEq

/-- Why an operation on a document fails. -/
inductive Error where
  | edit (e : EditError)
  | unreadable (message : String)
  | notATree (fault : Json.Fault)
  | unwritable (message : String)
  | notFileBacked

namespace Error

def message : Error → String
  | edit e => "Mutation error: " ++ e.message
  | unreadable s | unwritable s => "IO error: " ++ s
  | notATree fault => "Load error: JSON error: " ++ fault.message
  | notFileBacked => "Document is not file-backed"

end Error

/-- What has become of an edit that was not rejected. -/
structure Outcome where
  /-- The version that the document has now. -/
  version : Nat
  /-- Whether the tree is another one now. -/
  changed : Bool
  deriving DecidableEq

end Document

structure Document where
  /-- The file that the document is backed by. -/
  path : Option Path
  /-- Counts the changes of the tree and the catalog. The count is taken not to wrap around. -/
  version : Nat
  catalog : Catalog
  ids : IdSource
  history : History Tree
  options : Document.Options
  lintOptions : Lint.Options
  /-- What the linter says about the current tree. -/
  findings : List Lint.Finding
  /-- The saved query that the file holds, if it does not hold a bare tree. -/
  saved : Option SavedQuery
  /-- Whether the tree may be another one than that in the file. -/
  isDirty : Bool

namespace Document

def tree (d : Document) : Tree := d.history.current

def relint (d : Document) : Document :=
  { d with findings := Lint.tree d.tree d.catalog d.lintOptions }

/-- A document of a tree that no file holds. -/
def create (t : Tree) (catalog : Catalog) (options : Options) : Document :=
  relint
    { path := none
      version := 0
      catalog
      ids := .forTree options.space t
      history := .start t options.historyLimit
      options
      lintOptions := .standard
      findings := []
      saved := none
      isDirty := false }

/-- Opens the text of a file. -/
def ofText (path : Path) (text : String) (catalog : Catalog) (options : Options) :
    Except Error Document :=
  let backed (t : Tree) (saved : Option SavedQuery) : Document :=
    { create t catalog options with path := some path, saved }
  match SavedQuery.ofText text with
  | .ok q => .ok (backed q.tree (some q))
  | .error _ =>
    match Group.ofText text with
    | .ok t => .ok (backed t none)
    | .error fault => .error (.notATree fault)

def setLintOptions (o : Lint.Options) (d : Document) : Document :=
  relint { d with lintOptions := o }

/-- Whether the linter finds no error. -/
def isValid (d : Document) : Bool := d.findings.all fun f => !f.isError

/-- Makes a change of the tree known. -/
def touched (d : Document) : Document :=
  relint { d with version := d.version + 1, isDirty := true }

/-- Applies a mutation. One that is rejected or changes nothing leaves no trace but used ids. -/
def apply (today : Date) (m : Mutation) (d : Document) : Except EditError Outcome × Document :=
  let (result, ids) := m.apply ⟨d.catalog, today, d.options.maxDepth⟩ d.ids d.tree
  let d := { d with ids }
  match result with
  | .error e => (.error e, d)
  | .ok t =>
    if t = d.tree then (.ok ⟨d.version, false⟩, d)
    else
      let d := touched { d with history := d.history.push t (some m.label) }
      (.ok ⟨d.version, true⟩, d)

/-- Steps back in the history. -/
def undo? (d : Document) : Option Document :=
  d.history.undo?.map fun history => touched { d with history }

/-- Steps forward in the history. -/
def redo? (d : Document) : Option Document :=
  d.history.redo?.map fun history => touched { d with history }

/-- Starts to collect edits in one step of the history. -/
def openBatch (label : String) (d : Document) : Document :=
  { d with history := d.history.openBatch.nameBatch label }

def closeBatch (d : Document) : Document := { d with history := d.history.closeBatch }

/-- Takes another tree and forgets the history. -/
def reset (t : Tree) (d : Document) : Document :=
  touched { d with ids := d.ids.observe t, history := d.history.reset t }

/-- Takes another catalog. -/
def setCatalog (catalog : Catalog) (d : Document) : Document :=
  relint { d with catalog, version := d.version + 1 }

/-- Adds a page of options to a field, if the catalog has that field. -/
def mergeOptions? (field : String) (page : OptionPage) (d : Document) : Option Document :=
  (d.catalog.mergeOptions? field page).map fun catalog => d.setCatalog catalog

/-- The current tree in a format. -/
def exportTo (format : Export.Format) (options : Export.Options) (d : Document) : Export.Output :=
  Export.one d.tree d.catalog format options

/-- The current tree as a saved query: the one in the file brought up to date if it has that name,
otherwise a new one. -/
def toSavedQuery (now : Timestamp) (name : String) (d : Document) : SavedQuery :=
  match d.saved with
  | some q => if q.name = name then q.updateTree now d.tree else .create now name d.tree
  | none => .create now name d.tree

/-- The document with its saved query brought up to date. -/
def updateSaved (now : Timestamp) (d : Document) : Document :=
  { d with saved := d.saved.map (·.updateTree now d.tree) }

/-- The text of the file that holds the document: its saved query, or else the bare tree. -/
def fileText (d : Document) : String :=
  match d.saved with
  | some q => q.toJson.renderPretty
  | none => d.tree.toJson.renderPretty

section Files

variable {m : Type → Type} [Monad m]

/-- Opens a file. -/
def load (s : Storage m) (path : Path) (catalog : Catalog) (options : Options) :
    m (Except Error Document) := do
  match ← s.read path with
  | .error message => return .error (.unreadable message)
  | .ok text => return ofText path text catalog options

/-- Writes the document to a file. -/
def writeTo (s : Storage m) (now : Timestamp) (path : Path) (d : Document) :
    m (Except Error Unit × Document) := do
  let d := d.updateSaved now
  match ← s.write path d.fileText with
  | .error message => return (.error (.unwritable message), d)
  | .ok () => return (.ok (), { d with isDirty := false })

/-- Writes the document to the file that backs it. -/
def save (s : Storage m) (now : Timestamp) (d : Document) : m (Except Error Unit × Document) := do
  match d.path with
  | none => return (.error .notFileBacked, d)
  | some path => d.writeTo s now path

/-- Writes the document to another file, which backs it from then on. -/
def saveAs (s : Storage m) (now : Timestamp) (path : Path) (d : Document) :
    m (Except Error Unit × Document) := do
  match ← d.writeTo s now path with
  | (.ok (), d) => return (.ok (), { d with path := some path })
  | (.error e, d) => return (.error e, d)

end Files

end Document

end Criteria
