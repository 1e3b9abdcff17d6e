import Criteria.Project.CommandLine
/-!
The program as a whole: it reads its words, runs the command in them, and gives its exit code.
-/

namespace Criteria.Project

inductive ExitCode where
  | success
  /-- Something is wrong with what the command was to work on. -/
  | failure
  /-- The words of the command line make no sense. -/
  | misuse
  deriving DecidableEq

namespace ExitCode

def code : ExitCode → Nat
  | success => 0
  | failure => 1
  | misuse => 2

end ExitCode

def versionText : String := "rulecraft 0.1.0"

def usageLines : List String :=
  ["Usage: rulecraft [OPTIONS] <COMMAND>", "", "Commands:",
    "  init     Initialize a new Rulecraft project",
    "  compile  Compile rule trees to readable text, SQL, Mongo or JSON",
    "  lint     Check rule trees against the field catalog",
    "  help     Print this message or the help of the given subcommand(s)", "", "Options:",
    "  -C, --dir <DIR>  Project directory (defaults to the current directory)",
    "  -h, --help       Print help", "  -V, --version    Print version"]

section Running

variable {m : Type → Type} [Monad m]

/-- Runs a command in the folder of a project; gives whether all is well. -/
def Command.run (h : Host m) (dir : Path) : Command → ExceptT String m Bool
  | create r => Project.create h dir r
  | compile r => Project.compile h dir r
  | check r => Project.check h dir r

/-- Runs the program with these words, from the folder `here`. -/
def run (h : Host m) (here : Path) (words : List String) : m ExitCode := do
  match CommandLine.read words with
  | .error .version =>
    h.say versionText
    return .success
  | .error .help =>
    usageLines.forM fun line => h.say line
    return .success
  | .error .misuse =>
    usageLines.forM fun line => h.complain line
    return .misuse
  | .ok (dir, command) =>
    match ← (command.run h (dir.getD here)).run with
    | .ok good => return if good then .success else .failure
    | .error message =>
      ["", "Error: " ++ message, ""].forM fun line => h.complain line
      return .failure

end Running

end Criteria.Project
