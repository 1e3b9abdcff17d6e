import Criteria.Project
/-!
The program on real files and streams.
-/

namespace Criteria.Shell

/-- What an action gives, or the text of its error. -/
def attempt {α : Type} (act : IO α) : IO (Except String α) := do
  try return .ok (← act) catch e => return .error (toString e)

/-- The real path of what is there, links followed. -/
def resolve? (p : Path) : IO (Option Path) := do
  match ← attempt (IO.FS.realPath p.text) with
  | .ok real => return some ⟨real.toString⟩
  | .error _ => return none

def kind? (p : Path) : IO (Option FileKind) := do
  let found ← attempt do return (← (← IO.FS.realPath p.text).metadata).type
  match found with
  | .ok .file => return some .file
  | .ok .dir => return some .folder
  | _ => return none

/-- The files below a folder. Folders that cannot be read, and links back to a folder around them,
are passed over. -/
partial def filesBelow (around : List Path) (p : Path) : IO (List (List String)) := do
  let some real ← resolve? p | return []
  if around.contains real then return []
  match ← attempt do return (← (← IO.FS.realPath p.text).readDir) with
  | .error _ => return []
  | .ok entries =>
    let below ← entries.toList.mapM fun e => do
      let inner := p.join ⟨e.fileName⟩
      match ← kind? inner with
      | some .file => return [[e.fileName]]
      | some .folder =>
        return (← filesBelow (real :: around) inner).map fun names => e.fileName :: names
      | none => return []
    return below.flatten

/-- The time at which a file is made that is there for nothing else. -/
def now : IO Timestamp := do
  let (_, file) ← IO.FS.createTempFile
  let time := (← file.metadata).modified
  IO.FS.removeFile file
  match Timestamp.ofSeconds? time.sec time.nsec.toNat with
  | some t => return t
  | none => throw (IO.userError "The clock is out of range")

def host : Host IO where
  kind? := kind?
  read p := attempt (IO.FS.readFile p.text)
  write p s := attempt (IO.FS.writeFile p.text s)
  makeFolders p := attempt (IO.FS.createDirAll p.text)
  filesBelow := filesBelow []
  resolve? := resolve?
  now := now
  say line := do (← IO.getStdout).putStrLn line
  complain line := do (← IO.getStderr).putStrLn line

end Criteria.Shell

def main (words : List String) : IO UInt32 := do
  let here := (← IO.currentDir).toString
  let code ← Criteria.Project.run Criteria.Shell.host ⟨here⟩ words
  return code.code.toUInt32
