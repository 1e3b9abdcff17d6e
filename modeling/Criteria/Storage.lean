import Criteria.Date.Timestamp
import Criteria.Path
/-!
What a program needs of the files around it. The operations run in a monad, so that a program can
work on real files as well as on a disk in memory.
-/

namespace Criteria

/-- What is found at a path. -/
inductive FileKind where
  | file
  | folder
  deriving DecidableEq

/-- Access to files. What fails does so with a message. -/
structure Storage (m : Type → Type) where
  kind? : Path → m (Option FileKind)
  read : Path → m (Except String String)
  /-- Puts a text into a file, which need not be there yet. -/
  write : Path → String → m (Except String Unit)
  /-- Makes a folder and the folders around it, unless they are there. -/
  makeFolders : Path → m (Except String Unit)
  /-- The files anywhere below a folder by the names that lead to them, in any order. -/
  filesBelow : Path → m (List (List String))
  /-- One path for all the paths of what is there. -/
  resolve? : Path → m (Option Path)

/-- Files, the clock, and the two streams of lines that a program writes. -/
structure Host (m : Type → Type) extends Storage m where
  now : m Timestamp
  say : String → m Unit
  complain : String → m Unit

end Criteria
