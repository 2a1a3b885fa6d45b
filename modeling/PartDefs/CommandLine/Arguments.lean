import PartDefs.CommandLine.Help

/-!
# Arguments

The arguments of a call are read from left to right.  The first word is the command.  Behind it come
flags, options with a value and the one path of the command, in any order.  A value is taken up as
soon as it is seen but judged only when the next argument is recognised, so that an argument that is
not recognised at all is complained of first.
-/

namespace PartDefs.CommandLine

/-- When reports are coloured. -/
inductive ColorChoice where
  | auto
  | always
  | never
deriving DecidableEq

namespace ColorChoice

/-- The choice of a word. -/
def ofWord? (word : String) : Option ColorChoice :=
  if word = "auto" then some auto
  else if word = "always" then some always
  else if word = "never" then some never
  else none

/-- Whether reports are coloured, given whether they go to a terminal. -/
def colorize (choice : ColorChoice) (terminal : Bool) : Bool :=
  match choice with
  | auto => terminal
  | always => true
  | never => false

end ColorChoice

/-- A call that makes sense. -/
structure Invocation where
  command : Command
  path : String
  output : Option String
  color : ColorChoice
  /-- How often more detail is asked for, at most `maxVerbosity` times. -/
  verbosity : Nat
deriving DecidableEq

/-- Why a call does not lead to a command. -/
inductive Refusal where
  /-- Help is asked for. -/
  | help (topic : Topic)
  /-- There is no command. -/
  | missingCommand
  /-- The first word is no command, or the topic of help is none. -/
  | unknownCommand
  /-- A flag is not known, or there is a word too many. -/
  | unknownArgument
  /-- The path is missing. -/
  | missingArgument
  /-- An option lacks its value, or a value cannot be taken. -/
  | invalidValue
  /-- An option is given twice. -/
  | conflict
  /-- A flag is given a value. -/
  | unwantedValue
deriving DecidableEq

/-- What takes a value. -/
inductive Slot where
  | path
  | output
  | color
deriving DecidableEq

/-- A slot that is being filled; an option may still lack its value. -/
structure Pending where
  slot : Slot
  value : Option String
deriving DecidableEq

/-- What the arguments so far have said. -/
structure Progress where
  path : Option String := none
  output : Option String := none
  color : Option ColorChoice := none
  verbosity : Nat := 0
  /-- The slot that was seen last and is not judged yet. -/
  pending : Option Pending := none
  /-- Whether all further arguments are words, whatever they begin with. -/
  wordsOnly : Bool := false
deriving DecidableEq

/-- The most detail that can be asked for. -/
def maxVerbosity : Nat := 255

namespace Progress

/-- Puts a value into a slot. -/
def fill (progress : Progress) (slot : Slot) (value : String) : Except Refusal Progress :=
  match slot with
  | .path =>
      if value = "" then .error .invalidValue else .ok { progress with path := some value }
  | .output =>
      if progress.output.isSome then .error .conflict
      else if value = "" then .error .invalidValue
      else .ok { progress with output := some value }
  | .color =>
      if progress.color.isSome then .error .conflict
      else
        match ColorChoice.ofWord? value with
        | none => .error .invalidValue
        | some choice => .ok { progress with color := some choice }

/-- Judges the pending slot, if there is one. -/
def settle (progress : Progress) : Except Refusal Progress :=
  match progress.pending with
  | none => .ok progress
  | some ⟨_, none⟩ => .error .invalidValue
  | some ⟨slot, some value⟩ => { progress with pending := none }.fill slot value

/-- Takes an option together with its value. -/
def attach (progress : Progress) (slot : Slot) (value : String) : Except Refusal Progress := do
  (← progress.settle).fill slot value

/-- Takes an option whose value is to follow. -/
def await (progress : Progress) (slot : Slot) : Except Refusal Progress := do
  return { ← progress.settle with pending := some ⟨slot, none⟩ }

/-- Asks for more detail. -/
def moreVerbose (progress : Progress) : Except Refusal Progress := do
  let settled ← progress.settle
  return { settled with verbosity := min (settled.verbosity + 1) maxVerbosity }

/-- Asks for help on a command. -/
def askHelp (progress : Progress) (command : Command) : Except Refusal Progress := do
  let _ ← progress.settle
  throw (.help (.command command))

/-- Whether the path has been seen. -/
def hasPath (progress : Progress) : Bool :=
  progress.path.isSome || progress.pending.any (·.slot == .path)

/-- Takes a word as the path. -/
def positional (progress : Progress) (word : String) : Except Refusal Progress :=
  if progress.hasPath then .error .unknownArgument
  else do
    return { ← progress.settle with pending := some ⟨.path, some word⟩ }

/-- Takes a word: as the value that an option waits for, or else as the path. -/
def word (progress : Progress) (text : String) : Except Refusal Progress :=
  match progress.pending with
  | some ⟨slot, none⟩ =>
      if progress.wordsOnly then progress.positional text
      else .ok { progress with pending := some ⟨slot, some text⟩ }
  | _ => progress.positional text

end Progress

/-! ## Options -/

/-- The slot of a long option. -/
def Command.longOption? (command : Command) (name : String) : Option Slot :=
  if name = "color" then some .color
  else if name = "output" ∧ command.takesOutput then some .output
  else none

/-- Takes an argument that begins with two dashes; `text` is behind them. -/
def longArgument (command : Command) (progress : Progress) (text : List Char) :
    Except Refusal Progress :=
  let name := String.ofList (text.takeWhile (· ≠ '='))
  match text.dropWhile (· ≠ '=') with
  | [] =>
      if name = "help" then progress.askHelp command
      else
        match command.longOption? name with
        | some slot => progress.await slot
        | none => .error .unknownArgument
  | _ :: value =>
      if name = "help" then .error .unwantedValue
      else
        match command.longOption? name with
        | some slot => progress.attach slot (String.ofList value)
        | none => .error .unknownArgument

/-- Takes the letters of an argument that begins with one dash.  What is behind the letter of an
option is its value, less an equals sign in front. -/
def shortArgument (command : Command) (progress : Progress) : List Char → Except Refusal Progress
  | [] => .ok progress
  | letter :: rest =>
      if letter = 'v' then
        match progress.moreVerbose with
        | .error refusal => .error refusal
        | .ok next => shortArgument command next rest
      else if letter = 'h' then progress.askHelp command
      else if letter = 'o' ∧ command.takesOutput then
        match rest with
        | [] => progress.await .output
        | '=' :: value => progress.attach .output (String.ofList value)
        | value => progress.attach .output (String.ofList value)
      else .error .unknownArgument

/-- Takes one argument. -/
def argument (command : Command) (progress : Progress) (text : String) :
    Except Refusal Progress :=
  if progress.wordsOnly then progress.word text
  else
    match text.toList with
    | ['-', '-'] => .ok { progress with wordsOnly := true }
    | '-' :: '-' :: long => longArgument command progress long
    | '-' :: letter :: letters => shortArgument command progress (letter :: letters)
    | _ => progress.word text

/-- Takes arguments from left to right. -/
def arguments (command : Command) (progress : Progress) : List String → Except Refusal Progress
  | [] => .ok progress
  | text :: later => do
      arguments command (← argument command progress text) later

/-- Judges what is left when all arguments are taken. -/
def finish (command : Command) (progress : Progress) : Except Refusal Invocation := do
  let settled ← progress.settle
  match settled.path with
  | none => throw .missingArgument
  | some path =>
      return {
        command
        path
        output := settled.output
        color := settled.color.getD .auto
        verbosity := settled.verbosity }

/-- Reads the arguments of a command. -/
def parseCommand (command : Command) (texts : List String) : Except Refusal Invocation := do
  finish command (← arguments command {} texts)

/-! ## The whole call -/

/-- What is asked about behind the word for help. -/
def helpTopic : List String → Refusal
  | [] => .help .program
  | [word] =>
      if word = helpWord then .help .help
      else
        match Command.ofName? word with
        | some command => .help (.command command)
        | none => .unknownCommand
  | _ => .unknownCommand

/-- Whether a word may stand first. -/
def isFirstWord (word : String) : Bool :=
  word = helpWord || (Command.ofName? word).isSome

/-- The refusal of a call whose first argument is a flag with one dash; `letter` is behind it. -/
def refuseShort (letter : Char) : Refusal :=
  if letter = 'h' then .help .program else .unknownArgument

/-- The refusal of a call whose first argument is a flag with two dashes; `text` is behind them. -/
def refuseLong (text : List Char) : Refusal :=
  if text = "help".toList then .help .program
  else if text.takeWhile (· ≠ '=') = "help".toList then .unwantedValue
  else .unknownArgument

/-- Reads the arguments of a call. -/
def parse : List String → Except Refusal Invocation
  | [] => .error .missingCommand
  | first :: later =>
      match first.toList with
      | ['-', '-'] =>
          match later with
          | [] => .error .missingCommand
          | word :: _ => .error (if isFirstWord word then .unknownArgument else .unknownCommand)
      | '-' :: '-' :: long => .error (refuseLong long)
      | '-' :: letter :: _ => .error (refuseShort letter)
      | _ =>
          if first = helpWord then .error (helpTopic later)
          else
            match Command.ofName? first with
            | some command => parseCommand command later
            | none => .error .unknownCommand

/-- The status with which a refused call ends. -/
def Refusal.status : Refusal → Nat
  | help _ => 0
  | _ => 2

end PartDefs.CommandLine
