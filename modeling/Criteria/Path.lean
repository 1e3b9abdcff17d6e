/-!
Paths as they are written. Joining does not tidy them up: single dots and repeated slashes stay, and
are passed over only where the parts of a path are asked for.
-/

namespace Criteria

structure Path where
  text : String
  deriving DecidableEq

namespace Path

def isAbsolute (p : Path) : Bool := p.text.toList.head? = some '/'

/-- The path that is reached from a folder; an absolute one is reached from anywhere. -/
def join (folder p : Path) : Path :=
  if p.isAbsolute then p
  else if folder.text.isEmpty || folder.text.toList.getLast? = some '/' then
    ⟨folder.text ++ p.text⟩
  else ⟨folder.text ++ "/" ++ p.text⟩

/-- The texts between the slashes. -/
def splitAtSlashes : List Char → List (List Char)
  | [] => [[]]
  | '/' :: cs => [] :: splitAtSlashes cs
  | c :: cs =>
    match splitAtSlashes cs with
    | [] => [[c]]
    | p :: ps => (c :: p) :: ps

/-- All parts of a path, empty ones and dots included. -/
def parts (p : Path) : List String := (splitAtSlashes p.text.toList).map String.ofList

/-- Whether a part of a path leads nowhere else. -/
def stays (part : String) : Bool := part = "" || part = "."

/-- The name that a path ends in, unless it ends in two dots. -/
def name? (p : Path) : Option String :=
  (p.parts.filter fun part => !stays part).getLast?.filter fun part => part ≠ ".."

/-- The path of names from a folder down. -/
def descend (folder : Path) (names : List String) : Path :=
  names.foldl (fun p name => p.join ⟨name⟩) folder

/-- Names with slashes between them. -/
def ofNames (names : List String) : Path := ⟨"/".intercalate names⟩

/-- A name cut at its last dot. A dot in front is part of the name. -/
def cut (name : String) : String × Option String :=
  let (ending, start) := name.toList.reverse.span (· ≠ '.')
  match start with
  | [] | [_] => (name, none)
  | _ :: start =>
    if name = ".." then (name, none)
    else (String.ofList start.reverse, some (String.ofList ending.reverse))

/-- What follows the last dot of a name. -/
def ending? (name : String) : Option String := (cut name).2

/-- A name with another ending. If two dots are left without the ending there was, they lead up and
take no ending. -/
def withEnding (name ending : String) : String :=
  match cut name with
  | (".", some _) => ".."
  | (stem, _) => stem ++ "." ++ ending

end Path

end Criteria
