import PartDefs.Log.Filter
import PartDefs.Text.Quoted
import PartDefs.Text.Style

/-!
# The log

Notices are shown as lines, each with its level, its message and its fields, when the filter of the
run lets them pass.
-/

namespace PartDefs.Log

/-- The directives of a run: asked for by verbosity, else taken from the environment, else warnings
only. -/
def directives (verbosity : Nat) (environment : Option String) : String :=
  match verbosity with
  | 0 => environment.getD "warn"
  | 1 => "info"
  | _ => "debug"

/-! ## Lines -/

/-- The five letters that stand for a level. -/
def levelWord : Level → String
  | .error => "ERROR"
  | .warn => " WARN"
  | .info => " INFO"
  | .debug => "DEBUG"
  | .trace => "TRACE"

/-- The colour of a level. -/
def levelColor : Level → Text.Style
  | .error => .red
  | .warn => .yellow
  | .info => .green
  | .debug => .blue
  | .trace => .magenta

/-- The text of a field's value. -/
def valueText : FieldValue → String
  | .quoted text => Text.quoted text
  | .bare text => text
  | .number value => toString value

/-- A field as it stands in a line: the name slanted and the sign between name and value dim. -/
def fieldText (styles : Bool) (field : String × FieldValue) : String :=
  " " ++ Text.styled styles [.italic] field.1 ++ Text.styled styles [.dim] "=" ++
    valueText field.2

/-- The line of a notice. -/
def line (styles : Bool) (notice : Notice) : String :=
  Text.styled styles [levelColor notice.level] (levelWord notice.level) ++ " " ++ notice.message ++
    String.join (notice.fields.map (fieldText styles)) ++ "\n"

/-- How a run shows its log. -/
structure Settings where
  filter : Filter
  /-- Whether styles are shown. -/
  styles : Bool

/-- What the log shows of a notice. -/
def Settings.shown (settings : Settings) (notice : Notice) : String :=
  if settings.filter.passes notice then line settings.styles notice else ""

end PartDefs.Log
