import Criteria.Project.TreeFile
/-!
Compiling the trees of a project to files, or to lines of output.
-/

namespace Criteria.Project

structure CompileRequest where
  /-- A file with a tree or a folder of such files. -/
  input : Path
  /-- The formats, those of the configuration if there are none. -/
  targets : List Export.Format
  /-- Whether to write lines in place of files. -/
  toOutput : Bool
  outDir : Option Path
  catalog : Option Path
  deriving DecidableEq

/-- The file for a tree in a format: the name of the tree's file with the ending of the format, in
the same folders below the output folder. -/
def outputPath (outDir : Path) (names : List String) (format : Export.Format) : Path :=
  (outDir.descend names.dropLast).join
    ⟨Path.withEnding (names.getLastD "") format.extension⟩

/-- Whether a tree gives anything in a format. JSON shows a tree without conditions too. -/
def isCompiled (t : Tree) (format : Export.Format) : Bool := format = .json || Export.canExport t

/-- What the files of a run have in common. -/
structure CompileJob where
  catalog : Catalog
  config : Config
  targets : List Export.Format
  /-- The output folder; without one, lines are written. -/
  outDir : Option Path

/-- The folder that files are compiled to. -/
def chooseOutDir (dir : Path) (c : Config) (given : Option Path) : Path :=
  dir.join (((given.or c.outDir)).getD ⟨"dist"⟩)

/-- The job that is asked for in a project with this configuration and catalog. -/
def CompileRequest.job (dir : Path) (config : Config) (catalog : Catalog) (r : CompileRequest) :
    CompileJob where
  catalog
  config
  targets := if r.targets.isEmpty then config.emit else r.targets
  outDir := if r.toOutput then none else some (chooseOutDir dir config r.outDir)

section Compiling

variable {m : Type → Type} [Monad m]

/-- Writes one export of a tree; gives the file that was written. -/
def CompileJob.emit (h : Host m) (j : CompileJob) (f : TreeFile) (d : Document)
    (format : Export.Format) : ExceptT String m (Option Path) := do
  let text := (d.exportTo format j.config.exportOptions).pretty
  match j.outDir with
  | none =>
    h.say text
    return none
  | some outDir =>
    let path := outputPath outDir f.names format
    ExceptT.mk (h.makeFolders (outDir.descend f.names.dropLast))
    ExceptT.mk (h.write path text)
    return some path

/-- Compiles one file to all formats; gives the files that were written. -/
def CompileJob.perform (h : Host m) (j : CompileJob) (f : TreeFile) :
    ExceptT String m (List Path) := do
  match ← ExceptT.lift (Document.load h.toStorage f.path j.catalog j.config.documentOptions) with
  | .error e => throw e.message
  | .ok d =>
    let written ← (j.targets.filter (isCompiled d.tree)).mapM (j.emit h f d)
    return written.filterMap fun path => path

/-- Compiles one file and tells what has come of it; gives whether it went well. -/
def CompileJob.report (h : Host m) (j : CompileJob) (f : TreeFile) : m Bool := do
  match ← (j.perform h f).run with
  | .ok written =>
    written.forM fun path => h.say ("  ✓ " ++ f.title ++ " → " ++ path.text)
    return true
  | .error message =>
    h.complain ("  ✗ " ++ f.title ++ " - " ++ message)
    return false

/-- Writes a line, but not between those of a job that writes lines itself. -/
def CompileJob.tell (h : Host m) (j : CompileJob) (line : String) : m Unit :=
  if j.outDir.isSome then h.say line else pure ()

/-- How many files went well. -/
def summary (good bad : Nat) : String :=
  if bad = 0 then "✅ Compiled " ++ Decimal.natText good ++ " files successfully"
  else "⚠️ Compiled " ++ Decimal.natText good ++ " files, " ++ Decimal.natText bad ++ " errors"

/-- Compiles the files and tells how many of them went well; gives whether all did. -/
def CompileJob.reportAll (h : Host m) (j : CompileJob) (files : List TreeFile) : m Bool := do
  j.tell h "🔨 Compiling rule trees..."
  if files.isEmpty then
    h.say "⚠️  No rule tree files found"
    return true
  let results : List Bool ← files.mapM (j.report h)
  j.tell h ""
  j.tell h (summary (results.count true) (results.count false))
  return results.count false = 0

/-- What is to be done in a project: the job, and the files that it is for. -/
def CompileRequest.prepare (s : Storage m) (dir : Path) (r : CompileRequest) :
    ExceptT String m (CompileJob × List TreeFile) := do
  let config := (← readConfig s dir).withCatalog dir r.catalog
  let catalog ← readCatalog s dir config
  let files ← treeFiles s dir config (dir.join r.input)
  return (r.job dir config catalog, files)

/-- Compiles the trees of a project; gives whether all went well. -/
def compile (h : Host m) (dir : Path) (r : CompileRequest) : ExceptT String m Bool := do
  let (job, files) ← r.prepare h.toStorage dir
  ExceptT.lift (job.reportAll h files)

end Compiling

end Criteria.Project
