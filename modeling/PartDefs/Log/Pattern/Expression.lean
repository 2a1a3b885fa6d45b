import PartDefs.Log.Pattern.Class
import PartDefs.Text.Letter

/-!
# Expressions

An expression is read from left to right.  Groups are closed, what is to be repeated is there, names
of groups differ, and nothing is nested too deep: every group, every repetition, every sequence of
several pieces, every choice and the levels of classes count.
-/

namespace PartDefs.Log.Pattern

/-- A piece of a sequence. -/
structure Piece where
  depth : Nat
  /-- Whether it can be repeated. -/
  isOperand : Bool

/-- How far the inside of a group has been read. -/
structure GroupProgress where
  /-- The pieces of the present alternative, the last one first. -/
  pieces : List Piece := []
  /-- The depths of the alternatives that are complete. -/
  alternatives : List Nat := []

namespace GroupProgress

/-- Takes a piece. -/
def add (progress : GroupProgress) (piece : Piece) : GroupProgress :=
  { progress with pieces := piece :: progress.pieces }

/-- The depth of the present alternative. -/
def sequenceDepth (progress : GroupProgress) : Nat :=
  match progress.pieces with
  | [] => 0
  | [piece] => piece.depth
  | pieces => (pieces.map Piece.depth).foldl max 0 + 1

/-- Begins the next alternative. -/
def choose (progress : GroupProgress) : GroupProgress where
  alternatives := progress.sequenceDepth :: progress.alternatives

/-- The depth of all that has been read. -/
def depth (progress : GroupProgress) : Nat :=
  if progress.alternatives.isEmpty then progress.sequenceDepth
  else progress.alternatives.foldl max progress.sequenceDepth + 1

/-- Repeats the last piece. -/
def repeatLast (progress : GroupProgress) : Option GroupProgress :=
  match progress.pieces with
  | piece :: before =>
      if piece.isOperand then
        some { progress with pieces := ⟨piece.depth + 1, true⟩ :: before }
      else none
  | [] => none

end GroupProgress

/-- How far an expression has been read. -/
structure Progress where
  mode : Mode := {}
  /-- The innermost group that is open, or the whole expression. -/
  group : GroupProgress := {}
  /-- What is around it, and the mode there. -/
  outer : List (GroupProgress × Mode) := []
  /-- The names of groups so far. -/
  names : List String := []
  /-- Whether a place with regard to words has been asked for. -/
  asksWordPlace : Bool := false

namespace Progress

/-- Takes a piece into the innermost group. -/
def add (progress : Progress) (depth : Nat) (isOperand : Bool) : Progress :=
  { progress with group := progress.group.add ⟨depth, isOperand⟩ }

/-- Opens a group that is read in some mode. -/
def openGroup (progress : Progress) (mode : Mode) : Progress :=
  { progress with
    mode
    group := {}
    outer := (progress.group, progress.mode) :: progress.outer }

/-- Closes the innermost group. -/
def closeGroup (progress : Progress) : Option Progress :=
  match progress.outer with
  | [] => none
  | (around, mode) :: others =>
      some
        { progress with
          mode
          group := around.add ⟨progress.group.depth + 1, true⟩
          outer := others }

/-- Takes an escape outside of classes. -/
def escape (progress : Progress) : Escaped → Option Progress
  | .literal point byte =>
      if progress.mode.takesLiteral point byte then some (progress.add 0 true) else none
  | .textEnd => some (progress.add 0 true)
  | .wordPlace =>
      some
        { progress.add 0 true with
          asksWordPlace := progress.asksWordPlace || progress.mode.unicode }
  | .wordClass negated =>
      if progress.mode.takesWordClass negated then some (progress.add 0 true) else none

end Progress

/-! ## Groups -/

/-- Whether a text is a name for a group. -/
def isGroupName : List Char → Bool
  | [] => false
  | first :: later =>
      (first == '_' || Text.isLetter first) &&
        later.all fun c => Text.isAlphanumeric c || ['_', '.', '[', ']'].contains c

/-- Opens a group with a name, of which the text begins with the name. -/
def readNamed (progress : Progress) (text : List Char) : Option (Progress × List Char) :=
  let name := text.takeWhile (· ≠ '>')
  match text.dropWhile (· ≠ '>') with
  | [] => none
  | _ :: behind =>
      if isGroupName name && !progress.names.contains (String.ofList name) then
        let opened := progress.openGroup progress.mode
        some ({ opened with names := String.ofList name :: progress.names }, behind)
      else none

/-- Opens a group with flags, or takes flags for the rest of the present one; the text begins with
the flags. -/
def readFlags (progress : Progress) (text : List Char) : Option (Progress × List Char) :=
  let ends (c : Char) : Bool := c == ':' || c == ')'
  let flags := text.takeWhile (!ends ·)
  let mode := progress.mode.withFlags flags
  if !areFlags flags then none
  else
    match text.dropWhile (!ends ·) with
    | ':' :: behind => some (progress.openGroup mode, behind)
    | ')' :: behind =>
        if flags.isEmpty then none else some ({ progress.add 0 false with mode }, behind)
    | _ => none

/-- Reads what follows an opening bracket. -/
def readGroup (progress : Progress) (text : List Char) : Option (Progress × List Char) :=
  match progress.mode.skip text with
  | '?' :: 'P' :: '<' :: rest => readNamed progress rest
  | '?' :: '<' :: rest => readNamed progress rest
  | '?' :: rest => readFlags progress rest
  | rest => some (progress.openGroup progress.mode, rest)

/-! ## Pieces -/

/-- Reads a piece of an expression that begins with a character. -/
def readPiece (progress : Progress) (c : Char) (rest : List Char) :
    Option (Progress × List Char) := do
  let mode := progress.mode
  if c == '(' then readGroup progress rest
  else if c == ')' then return (← progress.closeGroup, rest)
  else if c == '|' then return ({ progress with group := progress.group.choose }, rest)
  else if c == '[' then
    let (negated, members) := openClass mode rest
    let (depth, behind) ← readClass mode (rest.length + 1) {} [] members
    if mode.takesClass negated then return (progress.add depth true, behind) else none
  else if c == '*' || c == '+' || c == '?' then
    let group ← progress.group.repeatLast
    return ({ progress with group }, if rest.head? = some '?' then rest.tail else rest)
  else if c == '\\' then
    let (escaped, behind) ← readEscape mode rest
    return (← progress.escape escaped, behind)
  else if c == '.' then
    if mode.unicode then return (progress.add 0 true, rest) else none
  else if c == '^' || c == '$' then return (progress.add 0 true, rest)
  else if c == '\x7b' then none
  else if mode.takesLiteral c.toNat false then return (progress.add 0 true, rest)
  else none

/-- Reads the rest of an expression.  `fuel` bounds the steps; one more than the length of the text
suffices. -/
def readPieces : (fuel : Nat) → Progress → List Char → Option Progress
  | 0, _, _ => none
  | fuel + 1, progress, text =>
      match progress.mode.skip text with
      | [] => some progress
      | c :: rest =>
          match readPiece progress c rest with
          | some (next, behind) => readPieces fuel next behind
          | none => none

/-- How deep an expression may be nested. -/
def maxDepth : Nat := 250

/-- Reads an expression from beginning to end. -/
def readExpression (text : List Char) : Option Progress :=
  match readPieces (text.length + 1) {} text with
  | some progress =>
      if progress.outer.isEmpty && progress.group.depth ≤ maxDepth then some progress else none
  | none => none

end PartDefs.Log.Pattern
