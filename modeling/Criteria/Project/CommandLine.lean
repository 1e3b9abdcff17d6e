import Criteria.Project.Check
import Criteria.Project.Compile
import Criteria.Project.Create
/-!
Reading the command line. A word that starts with a dash is a switch, or several one-letter switches
in one; a switch may take a value, attached to it or in the next word. Two dashes alone end the
switches. All other words are operands.
-/

namespace Criteria.Project

inductive Command where
  | create (r : CreateRequest)
  | compile (r : CompileRequest)
  | check (r : CheckRequest)
  deriving DecidableEq

namespace CommandLine

/-- Why no command is run. -/
inductive Stop where
  /-- The words make no sense. -/
  | misuse
  | version
  | help
  deriving DecidableEq

/-- What a switch does to what has been read before it. -/
inductive Effect (σ : Type) where
  | bare (f : σ → Except Stop σ)
  | takes (f : String → σ → Except Stop σ)

structure Switch (σ : Type) where
  letter : Option Char
  word : String
  effect : Effect σ

structure Grammar (σ : Type) where
  switches : List (Switch σ)
  /-- What an operand does. Without this, reading stops in front of the first one. -/
  operand : Option (String → σ → Except Stop σ)

namespace Grammar

variable {σ : Type}

/-- What is left to do with the next word, if the last switch waits for its value. -/
abbrev Pending (σ : Type) := Option (String → σ → Except Stop σ)

def ofLetter (g : Grammar σ) (c : Char) : Except Stop (Effect σ) :=
  match g.switches.find? (·.letter = some c) with
  | some s => .ok s.effect
  | none => .error .misuse

def ofWord (g : Grammar σ) (word : String) : Except Stop (Effect σ) :=
  match g.switches.find? (·.word = word) with
  | some s => .ok s.effect
  | none => .error .misuse

/-- A word of one-letter switches. What follows a switch with a value is the value; an equals sign
in front of it is not. -/
def letters (g : Grammar σ) : List Char → σ → Except Stop (σ × Pending σ)
  | [], s => .ok (s, none)
  | c :: cs, s => do
    match ← g.ofLetter c with
    | .bare f => g.letters cs (← f s)
    | .takes f =>
      match cs with
      | [] => return (s, some f)
      | '=' :: cs => return (← f (String.ofList cs) s, none)
      | cs => return (← f (String.ofList cs) s, none)

/-- A switch that is written out, with a value after an equals sign or without. -/
def word (g : Grammar σ) (cs : List Char) (s : σ) : Except Stop (σ × Pending σ) := do
  let (name, rest) := cs.span (· ≠ '=')
  match ← g.ofWord (String.ofList name), rest with
  | .bare f, [] => return (← f s, none)
  | .bare _, _ :: _ => throw .misuse
  | .takes f, [] => return (s, some f)
  | .takes f, _ :: value => return (← f (String.ofList value) s, none)

/-- Whether a word is no value. -/
def isSwitch (v : String) : Bool := v.toList.head? = some '-' && v ≠ "-"

/-- Reads words; gives those that are left. -/
def read (g : Grammar σ) : Pending σ → List String → σ → Except Stop (σ × List String)
  | some _, [], _ => .error .misuse
  | none, [], s => .ok (s, [])
  | some f, v :: vs, s => do
    if isSwitch v then throw .misuse
    g.read none vs (← f v s)
  | none, v :: vs, s =>
    match v.toList, g.operand with
    | ['-', '-'], some f => do return (← vs.foldlM (fun s v => f v s) s, [])
    | ['-', '-'], none => .error .misuse
    | '-' :: '-' :: cs, _ => do
      let (s, pending) ← g.word cs s
      g.read pending vs s
    | '-' :: c :: cs, _ => do
      let (s, pending) ← g.letters (c :: cs) s
      g.read pending vs s
    | _, some f => do g.read none vs (← f v s)
    | _, none => .ok (s, v :: vs)

end Grammar

/-- Everything that the switches and operands can say. -/
structure Settings where
  dir : Option Path := none
  formats : List Export.Format := []
  queries : Option String := none
  force : Bool := false
  input : Option Path := none
  toOutput : Bool := false
  outDir : Option Path := none
  catalog : Option Path := none
  verbose : Bool := false
  json : Option Bool := none

/-- A path must not be empty. -/
def path (v : String) : Except Stop Path := if v.isEmpty then .error .misuse else .ok ⟨v⟩

/-- A value that may be given once. -/
def once {α : Type} (read : String → Except Stop α) (get : Settings → Option α)
    (put : α → Settings → Settings) : String → Settings → Except Stop Settings
  | v, s => do
    let a ← read v
    if (get s).isSome then throw .misuse
    return put a s

/-- A switch without a value that may be given once. -/
def mark (get : Settings → Bool) (put : Settings → Settings) : Settings → Except Stop Settings
  | s => if get s then .error .misuse else .ok (put s)

def helpSwitch : Switch Settings := ⟨some 'h', "help", .bare fun _ => .error .help⟩

def dirSwitch : Switch Settings :=
  ⟨some 'C', "dir", .takes (once path Settings.dir fun p s => { s with dir := some p })⟩

def catalogSwitch : Switch Settings :=
  ⟨none, "catalog", .takes (once path Settings.catalog fun p s => { s with catalog := some p })⟩

/-- A switch for a format, which may be given again for another one. -/
def formatSwitch (letter : Char) (word : String) : Switch Settings :=
  ⟨some letter, word, .takes fun v s =>
    match Export.Format.ofName? v with
    | some f => .ok { s with formats := s.formats ++ [f] }
    | none => .error .misuse⟩

def inputOperand : String → Settings → Except Stop Settings :=
  once path Settings.input fun p s => { s with input := some p }

/-- The words in front of the command. -/
def shared : Grammar Settings where
  switches :=
    [dirSwitch, helpSwitch, ⟨some 'V', "version", .bare fun _ => .error .version⟩]
  operand := none

def createGrammar : Grammar Settings where
  switches :=
    [dirSwitch, helpSwitch, formatSwitch 'e' "emit",
      ⟨some 'q', "queries-dir",
        .takes (once .ok Settings.queries fun v s => { s with queries := some v })⟩,
      ⟨some 'f', "force", .bare (mark Settings.force fun s => { s with force := true })⟩]
  operand := some fun _ _ => .error .misuse

def compileGrammar : Grammar Settings where
  switches :=
    [dirSwitch, helpSwitch, catalogSwitch, formatSwitch 't' "target",
      ⟨none, "stdout", .bare (mark Settings.toOutput fun s => { s with toOutput := true })⟩,
      ⟨some 'o', "out-dir",
        .takes (once path Settings.outDir fun p s => { s with outDir := some p })⟩]
  operand := some inputOperand

/-- How findings are written. -/
def isJson (v : String) : Except Stop Bool :=
  match v with
  | "text" => .ok false
  | "json" => .ok true
  | _ => .error .misuse

def checkGrammar : Grammar Settings where
  switches :=
    [dirSwitch, helpSwitch, catalogSwitch,
      ⟨some 'v', "verbose", .bare (mark Settings.verbose fun s => { s with verbose := true })⟩,
      ⟨some 'f', "format",
        .takes (once isJson Settings.json fun b s => { s with json := some b })⟩]
  operand := some inputOperand

/-- A command with its grammar and what becomes of the settings. -/
structure Verb where
  name : String
  grammar : Grammar Settings
  command : Settings → Command

def verbs : List Verb :=
  [⟨"init", createGrammar, fun s => .create ⟨s.formats, s.queries.getD "queries", s.force⟩⟩,
    ⟨"compile", compileGrammar, fun s =>
      .compile ⟨s.input.getD ⟨"."⟩, s.formats, s.toOutput, s.outDir, s.catalog⟩⟩,
    ⟨"lint", checkGrammar, fun s =>
      .check ⟨s.input.getD ⟨"."⟩, s.verbose, s.json.getD false, s.catalog⟩⟩]

/-- Whether words after "help" name something to be helped with. -/
def isTopic : List String → Bool
  | [] => true
  | [name] => name = "help" || verbs.any (·.name = name)
  | _ => false

/-- The folder of the project, if it is given, and the command. A folder that is given after the
command counts more than one before it. -/
def read (words : List String) : Except Stop (Option Path × Command) := do
  let (before, rest) ← shared.read none words {}
  match rest with
  | [] => throw .misuse
  | name :: rest =>
    if name = "help" then throw (if isTopic rest then .help else .misuse)
    match verbs.find? (·.name = name) with
    | none => throw .misuse
    | some v =>
      let (s, _) ← v.grammar.read none rest {}
      return (s.dir.or before.dir, v.command s)

end CommandLine

end Criteria.Project
