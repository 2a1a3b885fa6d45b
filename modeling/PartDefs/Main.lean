import PartDefs.Program

/-!
# The executable

The program on the files of the system: arguments and environment come from the call, notices go to
the error stream as they are given.
-/

namespace PartDefs.Executable

/-- Computations on the files of the system, with a log. -/
abbrev SystemM := ReaderT Log.Settings IO

/-- The number of a system error, if it has one. -/
def code? : IO.Error → Option UInt32
  | .alreadyExists _ code _ | .otherError code _ | .resourceBusy code _
  | .resourceVanished code _ | .unsupportedOperation code _ | .hardwareFault code _
  | .unsatisfiedConstraints code _ | .illegalOperation code _ | .protocolError code _
  | .timeExpired code _ | .interrupted _ code _ | .noFileOrDirectory _ code _
  | .invalidArgument _ code _ | .permissionDenied _ code _ | .resourceExhausted _ code _
  | .inappropriateType _ code _ | .noSuchThing _ code _ => some code
  | .unexpectedEof | .userError _ => none

/-- The number that a code stands for.  A code may carry the number with its sign changed; the
number is the smaller of the two readings. -/
def numberOfCode (code : UInt32) : Nat :=
  min code.toNat (-code).toNat

/-- What a system error means for access to a file. -/
def accessFault (error : IO.Error) : AccessFault :=
  match code? error with
  | some code => .system ⟨numberOfCode code⟩
  | none => .other (toString error) []

/-- Asks the system for something, unless the path can name nothing. -/
def ask {α : Type} (path : Path) (request : IO α) : IO (Except AccessFault α) := do
  match FileTree.checkPath path with
  | .error fault => return .error fault
  | .ok () =>
      try
        return .ok (← request)
      catch error =>
        return .error (accessFault error)

/-- Reads from the start of what a path names, which a directory refuses in its own way. -/
def probe (path : Path) : IO Unit := do
  let handle ← IO.FS.Handle.mk path.text .read
  let _ ← handle.read 1

instance : Workspace SystemM where
  readFile path := ask path (IO.FS.readBinFile path.text)
  isDirectory path := do
    match ← ask path (probe path) with
    | .error fault => return fault = .system .isDirectory
    | .ok () => return false
  makeDirectory path := ask path (IO.FS.createDir path.text)
  writeFile path content := ask path (IO.FS.writeBinFile path.text content)
  tell notice := do
    IO.eprint ((← read).shown notice)

/-- The variables of the environment that a run looks at. -/
def environment : IO (List (String × String)) := do
  let names :=
    ["PILOTGEN_LOG", "RUST_LOG", "NO_COLOR", "CLICOLOR", "CLICOLOR_FORCE", "TERM", "CI"]
  let found ← names.filterMapM fun name => do
    return (← IO.getEnv name).map (name, ·)
  return found

/-- Prints an outcome and yields its status. -/
def finish (outcome : Outcome) : IO UInt32 := do
  IO.eprint outcome.stderr
  IO.print outcome.stdout
  return outcome.status.toUInt32

/-- Runs the program. -/
def run (arguments : List String) : IO UInt32 := do
  let found ← environment
  let terminals : Terminals := ⟨← (← IO.getStdout).isTty, ← (← IO.getStderr).isTty⟩
  let surroundings := Surroundings.ofVariables (found.lookup ·) terminals
  match CommandLine.parse arguments with
  | .error refusal => finish (.ofRefusal surroundings.styledHelp refusal)
  | .ok invocation =>
      let task : SystemM (Except Failure (Option Path)) := invocation.perform.run
      let settings := invocation.logSettings surroundings
      IO.eprint settings.filter.remarks
      let result ← task.run settings
      finish (.ofResult (invocation.colors surroundings) result)

end PartDefs.Executable

/-- The entry point. -/
def main (arguments : List String) : IO UInt32 :=
  PartDefs.Executable.run arguments
