import PartDefs.Text.Printable

/-!
# Quoted text in messages

A text between double quotes in which every character can be seen: quotes and backslashes are
escaped, and so is each character that would not show or would join the one in front of it.
-/

namespace PartDefs.Text

/-- An escape that gives the code point in lower-case hexadecimal digits. -/
def codePointEscape (c : Char) : List Char :=
  ['\\', 'u', '\x7b'] ++ Nat.toDigits 16 c.toNat ++ ['\x7d']

/-- How a character is shown between quotes. -/
def shown (c : Char) : List Char :=
  if c = '"' then ['\\', '"']
  else if c = '\\' then ['\\', '\\']
  else if c = '\n' then ['\\', 'n']
  else if c = '\r' then ['\\', 'r']
  else if c = '\t' then ['\\', 't']
  else if c = '\x00' then ['\\', '0']
  else if c = ' ' then [' ']
  else if isCombining c || isUnprintable c || isBlankLetter c then codePointEscape c
  else [c]

/-- The text between double quotes, every character as `shown`. -/
def quoted (text : String) : String :=
  String.ofList ('"' :: text.toList.flatMap shown ++ ['"'])

end PartDefs.Text
