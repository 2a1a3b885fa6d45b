import PartDefs.Text.Style

/-!
# Help pages

The commands of the program and the pages that describe them.  A page lists its arguments and
options in two columns.  Where styles are shown, headings are underlined and what is typed as it
stands is bold.
-/

namespace PartDefs.CommandLine

/-- What the program can be told to do. -/
inductive Command where
  /-- Write the definitions of a project. -/
  | defs
  /-- Write the part types of a descriptor file. -/
  | parts
  /-- Check descriptors and write nothing. -/
  | check
deriving DecidableEq

namespace Command

/-- The word for a command. -/
def name : Command → String
  | defs => "defs"
  | parts => "parts"
  | check => "check"

/-- The command of a word. -/
def ofName? (word : String) : Option Command :=
  if word = "defs" then some defs
  else if word = "parts" then some parts
  else if word = "check" then some check
  else none

@[simp]
theorem ofName?_name (command : Command) : ofName? command.name = some command := by
  cases command <;> rfl

/-- Whether a command takes a place for its output. -/
def takesOutput : Command → Bool
  | defs | parts => true
  | check => false

/-- What a command does, in a line. -/
def about : Command → String
  | defs => "Generate build/pilot.d.lua for a project"
  | parts => "Generate part declarations from a descriptor file"
  | check => "Validate part descriptors"

end Command

/-- The name under which the program is called. -/
def programName : String := "pilotgen"

/-- The word that asks for help. -/
def helpWord : String := "help"

/-- What can be asked about. -/
inductive Topic where
  | program
  | command (command : Command)
  | help
deriving DecidableEq

/-- A stretch of a line: what is typed as it stands, or anything else. -/
inductive Phrase where
  | literal (text : String)
  | plain (text : String)
deriving DecidableEq

namespace Phrase

/-- The words of a phrase. -/
def text : Phrase → String
  | literal text | plain text => text

/-- A phrase as it is shown. -/
def shown (styles : Bool) : Phrase → String
  | literal text => Text.styled styles [.bold] text
  | plain text => text

end Phrase

/-- An entry of a list: what it is about, in the first column, and what is said of it. -/
structure Row where
  label : List Phrase
  about : String

namespace Row

/-- The width of the first column of an entry. -/
def width (row : Row) : Nat :=
  row.label.foldl (fun width phrase => width + phrase.text.length) 0

/-- The line of an entry; `column` is the width of the first column, with the gap behind it. -/
def line (styles : Bool) (column : Nat) (row : Row) : String :=
  "  " ++ String.join (row.label.map (·.shown styles)) ++
    String.ofList (List.replicate (column - row.width) ' ') ++ row.about

end Row

/-- A titled list in two columns. -/
structure Section where
  title : String
  rows : List Row

/-- A page of help. -/
structure Page where
  about : String
  usage : List Phrase
  sections : List Section
  /-- Lines at the end, shown as they are. -/
  examples : List String

/-- A heading as it is shown. -/
def heading (styles : Bool) (title : String) : String :=
  Text.styled styles [.bold, .underlined] (title ++ ":")

/-- The width of the first column, with the gap behind it. -/
def Section.columnWidth (part : Section) : Nat :=
  (part.rows.map Row.width).foldl max 0 + 2

/-- The lines of a list. -/
def Section.lines (styles : Bool) (part : Section) : List String :=
  heading styles part.title :: part.rows.map (Row.line styles part.columnWidth)

/-- The lines of a page. -/
def Page.lines (styles : Bool) (page : Page) : List String :=
  [page.about, "",
    heading styles "Usage" ++ " " ++ String.join (page.usage.map (·.shown styles))] ++
    page.sections.flatMap (fun part => "" :: part.lines styles) ++
    (if page.examples.isEmpty then [] else "" :: "EXAMPLES:" :: page.examples)

/-- The text of a page, in styles or without. -/
def Page.render (page : Page) (styles : Bool) : String :=
  String.join ((page.lines styles).map (· ++ "\n"))

/-! ## The pages -/

/-- What the word for help does. -/
def helpAbout : String := "Print this message or the help of the given subcommand(s)"

/-- The row of the option that asks for help. -/
def helpOption : Row :=
  ⟨[.literal "-h", .plain ", ", .literal "--help"], "Print help"⟩

/-- The rows of the options that every command takes. -/
def sharedOptions : List Row :=
  [⟨[.plain "    ", .literal "--color", .plain " <WHEN>"],
      "Colorize diagnostics [default: auto] [possible values: auto, always, never]"⟩,
    ⟨[.literal "-v", .plain "..."],
      "Verbosity level (-v for progress, -vv for resolution details)"⟩,
    helpOption]

/-- The row of the option for the output. -/
def outputOption : Row :=
  ⟨[.literal "-o", .plain ", ", .literal "--output", .plain " <FILE>"],
    "Write output to file instead of the default location"⟩

namespace Command

/-- What a command is called on. -/
def argument : Command → String × String
  | defs =>
      ("<PROJECT>", "Project directory containing types.d.lua, globals.d.lua and parts.json")
  | parts => ("<FILE>", "Part descriptor JSON file")
  | check => ("<PATH>", "Part descriptor JSON file or project directory")

/-- Some ways to call a command. -/
def examples : Command → List String
  | defs =>
      ["  pilotgen defs .                     # writes ./build/pilot.d.lua",
        "  pilotgen defs game/ -o out.d.lua    # custom output file",
        "  PILOTGEN_LOG=debug pilotgen defs .  # trace part resolution"]
  | parts =>
      ["  pilotgen parts parts.json                 # writes parts.d.lua",
        "  pilotgen parts parts.json -o types.d.lua  # custom output file"]
  | check =>
      ["  pilotgen check parts.json   # descriptors only",
        "  pilotgen check game/        # whole project, including fragments"]

/-- How a command is called. -/
def usage (command : Command) : String :=
  "  " ++ programName ++ " " ++ command.name ++ " " ++ command.argument.1 ++
    (if command.takesOutput then " [-o <FILE>]" else "")

/-- The help page of a command. -/
def page (command : Command) : Page where
  about := command.about
  usage := [.plain command.usage]
  sections :=
    [⟨"Arguments", [⟨[.plain command.argument.1], command.argument.2⟩]⟩,
      ⟨"Options", (if command.takesOutput then [outputOption] else []) ++ sharedOptions⟩]
  examples := command.examples

end Command

/-- The help page of a topic. -/
def Topic.page : Topic → Page
  | program =>
      { about := "Luau type definitions for pilot part descriptors"
        usage := [.literal programName, .plain " <COMMAND>"]
        sections :=
          [⟨"Commands",
              [Command.defs, .parts, .check].map
                  (fun command => ⟨[.literal command.name], command.about⟩) ++
                [⟨[.literal helpWord], helpAbout⟩]⟩,
            ⟨"Options", [helpOption]⟩]
        examples := [] }
  | command asked => asked.page
  | help =>
      { about := helpAbout
        usage := [.literal (programName ++ " " ++ helpWord), .plain " [COMMAND]..."]
        sections :=
          [⟨"Arguments", [⟨[.plain "[COMMAND]..."], "Print help for the subcommand(s)"⟩]⟩]
        examples := [] }

end PartDefs.CommandLine
