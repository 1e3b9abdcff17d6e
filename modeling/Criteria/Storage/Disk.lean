import Criteria.Storage
/-!
A disk in memory: files and folders by their places, which are the names from the root down.
-/

namespace Criteria

structure Disk where
  files : List (List String × String)
  /-- The folders besides the root. -/
  folders : List (List String)
  /-- The folder that relative paths start from. -/
  here : List String
  deriving DecidableEq

namespace Disk

def text? (d : Disk) (place : List String) : Option String :=
  (d.files.find? (·.1 = place)).map (·.2)

def isFolder (d : Disk) (place : List String) : Bool := place.isEmpty || d.folders.contains place

/-- Follows the parts of a path. All but the last one must lead to folders. -/
def follow (d : Disk) : List String → List String → Option (List String)
  | place, [] => some place
  | place, part :: parts =>
    if !d.isFolder place then none
    else if Path.stays part then d.follow place parts
    else if part = ".." then d.follow place.dropLast parts
    else d.follow (place ++ [part]) parts

/-- Where a path starts. -/
def origin (d : Disk) (p : Path) : List String := if p.isAbsolute then [] else d.here

/-- The place that a path leads to, whether anything is there or not. -/
def place? (d : Disk) (p : Path) : Option (List String) :=
  if p.text.isEmpty then none else d.follow (d.origin p) p.parts

def kindAt? (d : Disk) (place : List String) : Option FileKind :=
  if d.isFolder place then some .folder
  else if (d.text? place).isSome then some .file
  else none

def kind? (d : Disk) (p : Path) : Option FileKind := (d.place? p).bind d.kindAt?

def noEntry : String := "No such file or directory"

def read (d : Disk) (p : Path) : Except String String :=
  match (d.place? p).bind d.text? with
  | some s => .ok s
  | none => .error noEntry

/-- Puts a text in the place of the file, or behind all files if it is new. -/
def put (place : List String) (s : String) :
    List (List String × String) → List (List String × String)
  | [] => [(place, s)]
  | f :: fs => if f.1 = place then (place, s) :: fs else f :: put place s fs

def write (d : Disk) (p : Path) (s : String) : Except String Disk :=
  match d.place? p with
  | none => .error noEntry
  | some place =>
    if d.isFolder place then .error "Is a directory"
    else .ok { d with files := put place s d.files }

/-- Follows the parts of a path and makes the folders that are missing. -/
def makeAlong (d : Disk) : List String → List String → Except String Unit × Disk
  | _, [] => (.ok (), d)
  | place, part :: parts =>
    if Path.stays part then d.makeAlong place parts
    else if part = ".." then d.makeAlong place.dropLast parts
    else
      let place := place ++ [part]
      match d.kindAt? place with
      | some .folder => d.makeAlong place parts
      | some .file => (.error "Not a directory", d)
      | none => { d with folders := d.folders ++ [place] }.makeAlong place parts

def makeFolders (d : Disk) (p : Path) : Except String Unit × Disk :=
  d.makeAlong (d.origin p) p.parts

/-- The rest of a place below another. -/
def below? (folder place : List String) : Option (List String) :=
  if folder.isPrefixOf place && folder.length < place.length then some (place.drop folder.length)
  else none

def filesBelow (d : Disk) (p : Path) : List (List String) :=
  match d.place? p with
  | some folder => d.files.filterMap fun f => below? folder f.1
  | none => []

def resolve? (d : Disk) (p : Path) : Option Path := do
  let place ← d.place? p
  let _ ← d.kindAt? place
  return ⟨"/" ++ "/".intercalate place⟩

/-- A disk with these files and the folders that they are in. -/
def ofFiles (files : List (Path × String)) (here : List String) : Disk :=
  let empty : Disk := ⟨[], (List.range here.length).map fun n => here.take (n + 1), here⟩
  files.foldl
    (fun d (p, s) =>
      let names := p.parts.filter fun part => !Path.stays part
      let place := d.origin p ++ names
      let d := (d.makeAlong (d.origin p) names.dropLast).2
      { d with files := put place s d.files })
    empty

/-- A disk that a program works on. -/
def storage : Storage (StateM Disk) where
  kind? p := return (← get).kind? p
  read p := return (← get).read p
  write p s := do
    match (← get).write p s with
    | .ok d => set d; return .ok ()
    | .error message => return .error message
  makeFolders p := modifyGet (·.makeFolders p)
  filesBelow p := return (← get).filesBelow p
  resolve? p := return (← get).resolve? p

end Disk

end Criteria
