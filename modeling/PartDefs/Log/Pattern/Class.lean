import PartDefs.Log.Pattern.Escape

/-!
# Classes in patterns

A class lists characters, ranges and further classes between brackets; two of the same sign `&`,
`-` or `~` combine what is on both sides.  How deep a class is nested counts for the whole pattern:
every bracket, every list of several members and every operator is a level.
-/

namespace PartDefs.Log.Pattern

/-- How far a class has been read. -/
structure ClassProgress where
  /-- Whether nothing has been read but dashes. -/
  isFresh : Bool := true
  /-- How many members have been read behind the last operator. -/
  members : Nat := 0
  /-- The greatest depth of these members. -/
  memberDepth : Nat := 0
  /-- The depth of all that is in front of the last operator. -/
  left : Option Nat := none

namespace ClassProgress

/-- Takes a member of some depth. -/
def add (progress : ClassProgress) (depth : Nat) : ClassProgress :=
  { progress with
    members := progress.members + 1
    memberDepth := max progress.memberDepth depth }

/-- The depth of what has been read. -/
def depth (progress : ClassProgress) : Nat :=
  let list := if 2 ≤ progress.members then progress.memberDepth + 1 else progress.memberDepth
  match progress.left with
  | none => list
  | some left => max left list + 1

/-- Takes an operator. -/
def operate (progress : ClassProgress) : ClassProgress where
  isFresh := false
  left := some progress.depth

end ClassProgress

/-- The names of the classes of ASCII characters. -/
def asciiClasses : List String :=
  ["alnum", "alpha", "ascii", "blank", "cntrl", "digit", "graph", "lower", "print", "punct",
    "space", "upper", "word", "xdigit"]

/-- Reads a named class of ASCII characters, the bracket being behind, and tells whether it is
complemented. -/
def readAsciiClass : List Char → Option (Bool × List Char)
  | ':' :: rest =>
      let negated := rest.head? = some '^'
      let name := if negated then rest.tail else rest
      match name.dropWhile (· ≠ ':') with
      | ':' :: ']' :: behind =>
          if asciiClasses.contains (String.ofList (name.takeWhile (· ≠ ':'))) then
            some (negated, behind)
          else none
      | _ => none
  | _ => none

/-- Reads what can be a member of a class or an end of a range. -/
def readMember (mode : Mode) : List Char → Option (Escaped × List Char)
  | [] => none
  | '\\' :: rest => readEscape mode rest
  | c :: rest => some (.literal c.toNat false, rest)

/-- Whether something can be a member of a class. -/
def Mode.takes (mode : Mode) : Escaped → Bool
  | .literal point _ => mode.takesMember point
  | .wordClass negated => mode.takesWordClass negated
  | .textEnd | .wordPlace => false

/-- Reads a member of a class or a range of them. -/
def readRange (mode : Mode) (text : List Char) : Option (List Char) := do
  let (first, rest) ← readMember mode text
  let alone := if mode.takes first then some (mode.skip rest) else none
  match mode.skip rest with
  | '-' :: behind =>
      if mode.peek? behind = some ']' || mode.peek? behind = some '-' then alone
      else
        match first, ← readMember mode (mode.skip behind) with
        | .literal low _, (.literal high _, rest) =>
            if low ≤ high && mode.takesMember low && mode.takesMember high then some rest
            else none
        | _, _ => none
  | _ => alone

/-- What follows an opening bracket: whether the class is complemented, and its members. -/
def openClass (mode : Mode) (text : List Char) : Bool × List Char :=
  match mode.skip text with
  | '^' :: rest => (true, rest)
  | rest => (false, rest)

/-- Reads the rest of a class that stands in other classes, and yields its depth.  `fuel` bounds the
steps; one more than the length of the text suffices. -/
def readClass (mode : Mode) : (fuel : Nat) → ClassProgress → (outer : List ClassProgress) →
    List Char → Option (Nat × List Char)
  | 0, _, _, _ => none
  | fuel + 1, progress, outer, text =>
      match mode.skip text with
      | [] => none
      | c :: rest =>
          if progress.isFresh && (c == '-' || (c == ']' && progress.members == 0)) then
            if mode.takesMember c.toNat then
              readClass mode fuel { progress.add 0 with isFresh := c == '-' } outer rest
            else none
          else
            let progress := { progress with isFresh := false }
            if c == ']' then
              match outer with
              | [] => some (progress.depth + 1, rest)
              | around :: others =>
                  readClass mode fuel (around.add (progress.depth + 1)) others rest
            else if c == '[' then
              match readAsciiClass rest with
              | some (negated, behind) =>
                  if mode.takesMember 0 && mode.takesClass negated then
                    readClass mode fuel (progress.add 0) outer behind
                  else none
              | none =>
                  let (negated, members) := openClass mode rest
                  if mode.takesClass negated then
                    readClass mode fuel {} (progress :: outer) members
                  else none
            else if (c == '&' || c == '-' || c == '~') && rest.head? = some c then
              readClass mode fuel progress.operate outer rest.tail
            else
              match readRange mode (c :: rest) with
              | some behind => readClass mode fuel (progress.add 0) outer behind
              | none => none

end PartDefs.Log.Pattern
