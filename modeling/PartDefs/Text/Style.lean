/-!
# Styles

On a terminal a text is set in a style by an escape sequence in front of it, and a last one behind
it leads back to plain text.
-/

namespace PartDefs.Text

/-- A style of a terminal. -/
inductive Style where
  | bold
  | dim
  | italic
  | underlined
  | red
  | green
  | yellow
  | blue
  | magenta
deriving DecidableEq

/-- The number that selects a style. -/
def Style.number : Style → Nat
  | bold => 1
  | dim => 2
  | italic => 3
  | underlined => 4
  | red => 31
  | green => 32
  | yellow => 33
  | blue => 34
  | magenta => 35

/-- The escape sequence that begins a style. -/
def Style.start (style : Style) : String :=
  "\x1b[" ++ toString style.number ++ "m"

/-- Sets a text in styles, if styles are shown. -/
def styled (shown : Bool) (styles : List Style) (text : String) : String :=
  if shown then String.join (styles.map Style.start) ++ text ++ "\x1b[0m" else text

end PartDefs.Text
