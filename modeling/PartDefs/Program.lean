import PartDefs.CommandLine.Arguments
import PartDefs.FileTree
import PartDefs.Log
import PartDefs.Project

/-!
# The program

One run of the program: its arguments are read, the command is carried out in a workspace, and the
outcome is what it prints and the status with which it ends.  Remarks on the log's filter come
first, then log lines, then the report of a failure.
-/

namespace PartDefs

open CommandLine

/-- Which of the streams of a run go to a terminal. -/
structure Terminals where
  stdout : Bool := false
  stderr : Bool := false
deriving DecidableEq

/-- What a run finds around it. -/
structure Surroundings where
  /-- Log directives from the environment. -/
  log : Option String
  /-- Whether styles in the log are unwanted. -/
  plainLog : Bool
  /-- Whether help is shown in styles. -/
  styledHelp : Bool
  /-- Whether reports go to a terminal. -/
  terminal : Bool

namespace Surroundings

/-- Whether help is shown in styles: never if they are unwanted, else always if they are asked for,
else on a terminal that is known to show them, unless they are switched off. -/
def showsStyles (valueOf : String → Option String) (terminal : Bool) : Bool :=
  let isGiven (name : String) : Bool := (valueOf name).any (· ≠ "")
  let switch : Option Bool := (valueOf "CLICOLOR").map (· != "0")
  let known := (valueOf "TERM").any (· ≠ "dumb") || (valueOf "CI").isSome || switch == some true
  !isGiven "NO_COLOR" &&
    (isGiven "CLICOLOR_FORCE" || (switch != some false && terminal && known))

/-- The surroundings that environment variables describe. -/
def ofVariables (valueOf : String → Option String) (terminals : Terminals) : Surroundings where
  log := (valueOf "PILOTGEN_LOG").or (valueOf "RUST_LOG")
  plainLog := (valueOf "NO_COLOR").any (· ≠ "")
  styledHelp := showsStyles valueOf terminals.stdout
  terminal := terminals.stderr

end Surroundings

namespace CommandLine.Invocation

/-- How the log of a call is shown. -/
def logSettings (invocation : Invocation) (surroundings : Surroundings) : Log.Settings where
  filter := .ofText (Log.directives invocation.verbosity surroundings.log)
  styles := !surroundings.plainLog

/-- The colours of the report of a call. -/
def colors (invocation : Invocation) (surroundings : Surroundings) : Colors :=
  .ofWish (some (invocation.color.colorize surroundings.terminal))

/-- Carries out the command of a call.  Yields the path of the file that it made, if any. -/
def perform {m : Type → Type} [Monad m] [Workspace m] (invocation : Invocation) :
    Task m (Option Path) :=
  let path : Path := ⟨invocation.path⟩
  let output := invocation.output.map Path.mk
  match invocation.command with
  | .defs => some <$> (Project.mk path).buildAndWrite {} output
  | .parts => some <$> generateFile path output {}
  | .check => do
      check path
      return none

end CommandLine.Invocation

/-- What a run prints, and the status with which it ends. -/
structure Outcome where
  status : Nat
  stdout : String
  stderr : String
deriving DecidableEq

namespace Outcome

/-- The outcome of a command. -/
def ofResult (colors : Colors) : Except Failure (Option Path) → Outcome
  | .ok none => ⟨0, "", ""⟩
  | .ok (some path) => ⟨0, path.text ++ " created successfully\n", ""⟩
  | .error failure => ⟨1, "", failure.report colors⟩

/-- What a refused call is told: the page it asks for, or why it is refused. -/
def refusalText (styles : Bool) : Refusal → String
  | .help topic => topic.page.render styles
  | .missingCommand => Topic.program.page.render styles
  | .unknownCommand => "error: unrecognized command\n"
  | .unknownArgument => "error: unexpected argument\n"
  | .missingArgument => "error: a required argument was not provided\n"
  | .invalidValue => "error: a value is missing or invalid\n"
  | .conflict => "error: an option cannot be used multiple times\n"
  | .unwantedValue => "error: a flag does not take a value\n"

/-- The outcome of a call that is refused.  Help that was asked for is ordinary output. -/
def ofRefusal (styles : Bool) (refusal : Refusal) : Outcome :=
  if refusal.status = 0 then ⟨0, refusalText styles refusal, ""⟩
  else ⟨refusal.status, "", refusalText styles refusal⟩

end Outcome

namespace Program

/-- A run in a tree of files: its outcome and the tree it leaves. -/
def run (arguments : List String) (surroundings : Surroundings) (tree : FileTree) :
    Outcome × FileTree :=
  match CommandLine.parse arguments with
  | .error refusal => (.ofRefusal surroundings.styledHelp refusal, tree)
  | .ok invocation =>
      let task : SessionM (Except Failure (Option Path)) := invocation.perform.run
      let (result, session) := task.run ⟨tree, []⟩
      let settings := invocation.logSettings surroundings
      let outcome := Outcome.ofResult (invocation.colors surroundings) result
      let logged := String.join (session.notices.map settings.shown)
      let stderr := settings.filter.remarks ++ logged ++ outcome.stderr
      ({ outcome with stderr }, session.tree)

end Program

end PartDefs
