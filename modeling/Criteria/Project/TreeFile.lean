import Criteria.Project.Config
/-!
The files with rule trees: one that is named, or all below a folder whose names end in ".json".
-/

namespace Criteria.Project

structure TreeFile where
  path : Path
  /-- The names that lead from the input to the file. -/
  names : List String
  deriving DecidableEq

namespace TreeFile

/-- The file as seen from the input. -/
def title (f : TreeFile) : String := (Path.ofNames f.names).text

end TreeFile

/-- The order of a walk through folders that goes by name, and through a folder where its name
stands. -/
def walksBefore : List String → List String → Bool
  | [], _ => true
  | _ :: _, [] => false
  | a :: as, b :: bs => if a = b then walksBefore as bs else a < b

/-- Whether a file below the input may hold a tree, by its name. -/
def maybeTree (names : List String) : Bool :=
  match names.getLast? with
  | some name => Path.ending? name = some "json" && name ≠ Config.fileName
  | none => false

section Finding

variable {m : Type → Type} [Monad m]

/-- The files with trees at a path. The configuration and the catalog of the project are none. -/
def treeFiles (s : Storage m) (dir : Path) (c : Config) (input : Path) :
    ExceptT String m (List TreeFile) := do
  match ← s.kind? input with
  | some .file => return [⟨input, [input.name?.getD input.text]⟩]
  | none => throw ("Input path does not exist: " ++ input.text)
  | some .folder =>
    let catalog ← s.resolve? (c.catalogPath dir)
    let below ← s.filesBelow input
    let files := ((below.filter maybeTree).mergeSort walksBefore).map fun names =>
      (⟨input.descend names, names⟩ : TreeFile)
    files.filterM fun f => do
      return catalog.isNone || (← s.resolve? f.path) ≠ catalog

end Finding

end Criteria.Project
