import PartDefs.Log.Pattern.Expression

/-!
# Patterns for the values of fields

The value that a field is to have is written as a number or as a regular expression.  Nothing is
compared here; it is told whether a value could be compared with.  No tables of letters are at hand,
so expressions that need them are not to be had.
-/

namespace PartDefs.Log

/-- Why a value cannot be compared with. -/
inductive PatternFault where
  /-- It is no well-formed expression. -/
  | malformed
  /-- It asks for a boundary of words. -/
  | wordBoundary
deriving DecidableEq

/-- The wording of each fault. -/
def PatternFault.message : PatternFault → String
  | malformed => "error building NFA"
  | wordBoundary =>
      "unsupported regex feature for DFAs: cannot build DFAs for regexes with Unicode word " ++
        "boundaries; switch to ASCII word boundaries, or heuristically enable Unicode word " ++
        "boundaries or use a different regex engine"

namespace Pattern

/-- Whether a text is empty or an exponent with its letter. -/
def isExponent : List Char → Bool
  | [] => true
  | letter :: rest =>
      let digits := if rest.head?.any (fun c => c == '+' || c == '-') then rest.tail else rest
      (letter == 'e' || letter == 'E') && !digits.isEmpty && digits.all Char.isDigit

/-- Whether a text is a decimal numeral, perhaps with a point and an exponent. -/
def isDecimal (text : List Char) : Bool :=
  let whole := text.takeWhile Char.isDigit
  match text.dropWhile Char.isDigit with
  | '.' :: rest =>
      (!whole.isEmpty || rest.head?.any Char.isDigit) && isExponent (rest.dropWhile Char.isDigit)
  | rest => !whole.isEmpty && isExponent rest

/-- Whether a value is a number; infinity and the absence of a number have names. -/
def isNumber (text : List Char) : Bool :=
  let unsigned := if text.head?.any (fun c => c == '+' || c == '-') then text.tail else text
  isDecimal unsigned ||
    ["inf", "infinity", "nan"].contains (String.ofList (unsigned.map Char.toLower))

end Pattern

/-- Whether a value can be compared with. -/
def checkPattern (value : List Char) : Except PatternFault Unit :=
  if Pattern.isNumber value then .ok ()
  else
    match Pattern.readExpression value with
    | none => .error .malformed
    | some progress => if progress.asksWordPlace then .error .wordBoundary else .ok ()

end PartDefs.Log
