import Criteria.Project.TreeFile
/-!
Linting the trees of a project, with the findings as text or as JSON.
-/

namespace Criteria.Project

structure CheckRequest where
  /-- A file with a tree or a folder of such files. -/
  input : Path
  /-- Whether to list files without findings too. -/
  verbose : Bool
  /-- Whether to write JSON in place of text. -/
  json : Bool
  catalog : Option Path
  deriving DecidableEq

/-- The lines on one finding. -/
def findingLines (f : Lint.Finding) : List String :=
  ("  " ++ f.level.name ++ " [" ++ f.rule ++ "] " ++ f.message ++ " (" ++ " › ".intercalate f.path
    ++ ")") :: (f.suggestion.map fun s => "    💡 " ++ s).toList

/-- The lines on the findings in one file. -/
def fileLines (verbose : Bool) (path : Path) (findings : List Lint.Finding) : List String :=
  if findings.isEmpty then if verbose then ["✓ " ++ path.text] else []
  else path.text :: findings.flatMap findingLines ++ [""]

/-- The findings in one file as JSON. -/
def fileJson (path : Path) (findings : List Lint.Finding) : Json :=
  (Json.object
    [("file", .text path.text), ("diagnostics", .list (findings.map Lint.Finding.toJson))]).sorted

/-- The lines at the end, from the number of files and all findings. -/
def summaryLines (files : Nat) (findings : List Lint.Finding) : List String :=
  let (errors, warnings) := findings.partition fun f => f.isError
  let line (title : String) (n : Nat) : String := "   " ++ title ++ " " ++ Decimal.natText n
  ["", "✨ Done Linting complete!", line "Files checked:" files,
    line "Total diagnostics:" findings.length]
  ++ (if errors.isEmpty then [] else [line "Errors:" errors.length])
  ++ (if warnings.isEmpty then [] else [line "Warnings:" warnings.length])
  ++ (if findings.isEmpty then ["   ✓ No issues found!"] else [])

section Checking

variable {m : Type → Type} [Monad m]

/-- The findings in one file. -/
def checkFile (s : Storage m) (catalog : Catalog) (c : Config) (path : Path) :
    ExceptT String m (List Lint.Finding) := do
  match ← ExceptT.lift (Document.load s path catalog c.documentOptions) with
  | .ok d => return (d.setLintOptions c.lintOptions).findings
  | .error e => throw ("Failed to load " ++ path.text ++ ": " ++ e.message)

/-- Lints the trees of a project; gives whether there are no errors. -/
def check (h : Host m) (dir : Path) (r : CheckRequest) : ExceptT String m Bool := do
  let config := (← readConfig h.toStorage dir).withCatalog dir r.catalog
  let catalog ← readCatalog h.toStorage dir config
  let input := dir.join r.input
  if !r.json then
    h.say "🔍 Starting Rulecraft Linter"
    h.say ("   Input: " ++ input.text)
    h.say ""
  let files ← treeFiles h.toStorage dir config input
  let findings ← files.mapM fun f => do
    let findings ← checkFile h.toStorage catalog config f.path
    if r.json then h.say (fileJson f.path findings).renderPretty
    else (fileLines r.verbose f.path findings).forM fun line => h.say line
    return findings
  let findings := findings.flatten
  if !r.json then (summaryLines files.length findings).forM fun line => h.say line
  return findings.all fun f => !f.isError

end Checking

end Criteria.Project
