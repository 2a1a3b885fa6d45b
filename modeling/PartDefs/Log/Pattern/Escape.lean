import PartDefs.Json.Escape
import PartDefs.Log.Pattern.Mode

/-!
# Escapes in patterns

A backslash makes a sign stand for itself and a letter for something else.  References to groups,
and classes of characters by property, are not to be had.
-/

namespace PartDefs.Log.Pattern

/-- What an escape stands for. -/
inductive Escaped where
  /-- A code point; `byte` tells whether it is written as a byte. -/
  | literal (point : Nat) (byte : Bool)
  /-- An end of the text. -/
  | textEnd
  /-- A place with regard to words. -/
  | wordPlace
  /-- Digits, blanks or letters of words, or all but these. -/
  | wordClass (negated : Bool)
deriving DecidableEq

/-- The code points of the characters that are escaped by a letter. -/
def letterEscapes : List (Char × Nat) :=
  [('a', 0x07), ('f', 0x0c), ('t', 0x09), ('n', 0x0a), ('r', 0x0d), ('v', 0x0b)]

/-- How many hexadecimal digits follow the letter of a code point. -/
def codeDigits : List (Char × Nat) :=
  [('x', 2), ('u', 4), ('U', 8)]

/-- Reads so many hexadecimal digits and passes over what does not count behind each. -/
def readDigits (mode : Mode) : (count value : Nat) → List Char → Option (Nat × List Char)
  | 0, value, text => some (value, text)
  | _ + 1, _, [] => none
  | count + 1, value, c :: rest =>
      match Json.hexDigit? c with
      | some digit => readDigits mode count (16 * value + digit) (mode.skip rest)
      | none => none

/-- Reads an escape, the backslash being behind. -/
def readEscape (mode : Mode) : List Char → Option (Escaped × List Char)
  | [] => none
  | c :: rest =>
      match codeDigits.lookup c, letterEscapes.lookup c with
      | some count, _ =>
          match readDigits mode count 0 (mode.skip rest) with
          | some (point, behind) =>
              if point.isValidChar then some (.literal point (c == 'x'), behind) else none
          | none => none
      | none, some point => some (.literal point false, rest)
      | none, none =>
          if ['d', 's', 'w'].contains c then some (.wordClass false, rest)
          else if ['D', 'S', 'W'].contains c then some (.wordClass true, rest)
          else if ['A', 'z'].contains c then some (.textEnd, rest)
          else if ['b', 'B', '<', '>'].contains c then some (.wordPlace, rest)
          else if c.toNat < 0x80 && !c.isAlphanum then some (.literal c.toNat false, rest)
          else none

namespace Mode

/-- Whether a code point can stand outside classes.  Letters of either case need a table that is not
at hand, and bytes beyond ASCII are no text. -/
def takesLiteral (mode : Mode) (point : Nat) (byte : Bool) : Bool :=
  if mode.unicode then !mode.foldsCase else !byte || point < 0x80

/-- Whether a code point can be a member of a class. -/
def takesMember (mode : Mode) (point : Nat) : Bool :=
  if mode.unicode then !mode.foldsCase else point < 0x80

/-- Whether a class that stands for itself can be complemented: of bytes, what is left would be no
text. -/
def takesClass (mode : Mode) (negated : Bool) : Bool :=
  mode.unicode || !negated

/-- Whether digits, blanks or letters of words can stand.  As characters they need a table that is
not at hand. -/
def takesWordClass (mode : Mode) (negated : Bool) : Bool :=
  !mode.unicode && !negated

end Mode

end PartDefs.Log.Pattern
