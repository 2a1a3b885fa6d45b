import PartDefs.Access
import PartDefs.Assembly
import PartDefs.Json.Fault

/-!
# Failures

Everything that can keep definitions from being made, and the report of it.  Trouble with an input
file is reported as it is; other failures are reported with all their causes.
-/

namespace PartDefs

/-- Why no definitions were made. -/
inductive Failure where
  /-- An input file is not there. -/
  | missingFile (path : Path)
  /-- An input file cannot be read. -/
  | unreadable (path : Path) (fault : AccessFault)
  /-- A directory for the output cannot be made. -/
  | noDirectory (path : Path) (fault : AccessFault)
  /-- The output cannot be written. -/
  | unwritable (path : Path) (fault : AccessFault)
  /-- A descriptor file is faulty. -/
  | json (path : Path) (report : Json.Report)
  /-- The definitions cannot be put together. -/
  | assembly (fault : AssemblyFault)
deriving DecidableEq

namespace AssemblyFault

/-- The wording of each fault. -/
def message : AssemblyFault → String
  | part fault => fault.message
  | noDefaultPart => "no part is marked as default; port lookup fallbacks need one"

end AssemblyFault

namespace Failure

/-- The wording of each failure. -/
def message : Failure → String
  | missingFile path => "file not found: " ++ path.text
  | unreadable path _ => "failed to read '" ++ path.text ++ "'"
  | noDirectory path _ => "failed to create directory '" ++ path.text ++ "'"
  | unwritable path _ => "failed to write '" ++ path.text ++ "'"
  | json path report => "unable to parse JSON in '" ++ path.text ++ "': " ++ report.message
  | assembly fault => fault.message

/-- The texts of what caused a failure, the nearest cause first. -/
def causes : Failure → List String
  | unreadable _ fault | noDirectory _ fault | unwritable _ fault => fault.messages
  | json _ report => [report.message]
  | missingFile _ | assembly _ => []

/-- Whether a failure is reported by its message alone. -/
def isInputProblem : Failure → Bool
  | missingFile _ | json _ _ => true
  | _ => false

end Failure

/-! ## Reports -/

/-- The escape sequences that colour a report, or nothing in their place. -/
structure Colors where
  red : String
  dim : String
  reset : String
deriving DecidableEq

namespace Colors

/-- Colours are shown. -/
def on : Colors := ⟨"\x1b[1;31m", "\x1b[2m", "\x1b[0m"⟩

/-- Colours are not shown. -/
def off : Colors := ⟨"", "", ""⟩

/-- Colours as wished; without a wish they are not shown. -/
def ofWish (wish : Option Bool) : Colors :=
  if wish = some true then on else off

/-- Whether colours are shown. -/
def isEnabled (colors : Colors) : Bool :=
  !colors.red.isEmpty

@[simp]
theorem isEnabled_on : on.isEnabled = true := by
  decide

@[simp]
theorem isEnabled_off : off.isEnabled = false := by
  decide

end Colors

/-- The line of a cause. -/
def causeLine (colors : Colors) (cause : String) : String :=
  "  " ++ colors.dim ++ "caused by" ++ colors.reset ++ ": " ++ cause ++ "\n"

/-- The report of a failure. -/
def Failure.report (failure : Failure) (colors : Colors) : String :=
  let label := colors.red ++ "error" ++ colors.reset ++ ": "
  if failure.isInputProblem then label ++ failure.message ++ "\n"
  else
    label ++ "failed to generate: " ++ failure.message ++ "\n" ++
      String.join (failure.causes.map (causeLine colors))

end PartDefs
