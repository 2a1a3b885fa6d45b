import PartDefs.Text.Blank

/-!
# Modes of a pattern

Flags change how the rest of a group is read.  Only three of them decide whether a pattern is well
formed: `u` for characters against bytes, `i` for letters of either case, and `x`, under which
blanks do not count and `#` begins a comment that goes to the end of the line.
-/

namespace PartDefs.Log.Pattern

/-- The flags that decide how a pattern is read. -/
structure Mode where
  /-- Whether it speaks of characters; else it speaks of bytes. -/
  unicode : Bool := true
  /-- Whether letters of either case are the same. -/
  foldsCase : Bool := false
  /-- Whether blanks and comments do not count. -/
  spaced : Bool := false
deriving DecidableEq

/-- Whether flags can stand together: each once, and something behind the sign that takes flags
away. -/
def areFlags (flags : List Char) : Bool :=
  flags.Nodup && flags.getLast? ≠ some '-' &&
    flags.all fun c => ['i', 'm', 's', 'U', 'u', 'x', 'R', '-'].contains c

/-- What a flag is set to: flags in front of the sign are given, flags behind it are taken away. -/
def settingOf (flags : List Char) (flag : Char) (before : Bool) : Bool :=
  if (flags.takeWhile (· ≠ '-')).contains flag then true
  else if flags.contains flag then false
  else before

namespace Mode

/-- The mode that flags lead to. -/
def withFlags (mode : Mode) (flags : List Char) : Mode where
  unicode := settingOf flags 'u' mode.unicode
  foldsCase := settingOf flags 'i' mode.foldsCase
  spaced := settingOf flags 'x' mode.spaced

/-- Passes over blanks and comments; `inComment` tells whether a comment has begun. -/
def skipSpace (inComment : Bool) : List Char → List Char
  | [] => []
  | c :: rest =>
      if inComment then skipSpace (c ≠ '\n') rest
      else if Text.isBlank c then skipSpace false rest
      else if c = '#' then skipSpace true rest
      else c :: rest

/-- Passes over what does not count. -/
def skip (mode : Mode) (text : List Char) : List Char :=
  if mode.spaced then skipSpace false text else text

/-- The first character of a text that is neither blank nor the first sign of a comment. -/
def firstSolid? (sawSign : Bool) : List Char → Option Char
  | [] => none
  | c :: rest =>
      if Text.isBlank c then firstSolid? sawSign rest
      else if c = '#' ∧ !sawSign then firstSolid? true rest
      else some c

/-- The character that is looked at ahead of time.  Of a comment only its sign is passed over. -/
def peek? (mode : Mode) (text : List Char) : Option Char :=
  if mode.spaced then (firstSolid? false text).or text.head? else text.head?

end Mode

end PartDefs.Log.Pattern
