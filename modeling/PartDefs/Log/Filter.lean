import PartDefs.Log.Directive

/-!
# Filters of the log

A filter is written as directives between commas.  Of the directives that speak of a notice the most
specific one decides.  A piece that is no directive is passed over with a remark.
-/

namespace PartDefs.Log

/-- The pieces of a text between commas. -/
def splitCommas : List Char → List (List Char)
  | [] => [[]]
  | c :: rest =>
      match splitCommas rest with
      | [] => [[c]]
      | piece :: more => if c = ',' then [] :: piece :: more else (c :: piece) :: more

/-- The pieces of a filter's text that hold something. -/
def piecesOf (text : String) : List String :=
  ((splitCommas text.toList).map String.ofList).filter (· ≠ "")

/-- A piece of a filter's text that is no directive, and why. -/
structure Refused where
  piece : String
  fault : DirectiveFault
deriving DecidableEq

/-- What is said of a piece that is no directive. -/
def Refused.remark (refused : Refused) : String :=
  "ignoring `" ++ refused.piece ++ "`: " ++ refused.fault.message ++ "\n"

/-- The piece as one that is no directive, unless it is one. -/
def refused? (piece : String) : Option Refused :=
  match Directive.ofText piece with
  | .ok _ => none
  | .error fault => some ⟨piece, fault⟩

/-- A filter: its directives, and the pieces of its text that are none. -/
structure Filter where
  directives : List Directive
  refused : List Refused
deriving DecidableEq

namespace Filter

/-- Reads a filter.  Without any directive, errors pass. -/
def ofText (text : String) : Filter where
  directives :=
    match (piecesOf text).filterMap fun piece => (Directive.ofText piece).toOption with
    | [] => [{ rank := Level.error.rank }]
    | found => found
  refused := (piecesOf text).filterMap refused?

/-- What is said of the pieces that are no directives, a line for each. -/
def remarks (filter : Filter) : String :=
  String.join (filter.refused.map Refused.remark)

/-- The more specific of two directives that speak of the same notice. -/
def moreSpecific (best : Option Directive) (next : Directive) : Option Directive :=
  match best with
  | none => some next
  | some first => if first.yieldsTo next then some next else some first

/-- The directive that decides about a notice. -/
def deciding? (filter : Filter) (notice : Notice) : Option Directive :=
  (filter.directives.filter (·.covers notice)).foldl moreSpecific none

/-- Whether a filter lets a notice pass. -/
def passes (filter : Filter) (notice : Notice) : Bool :=
  (filter.deciding? notice).any fun directive => notice.level.rank ≤ directive.rank

end Filter

end PartDefs.Log
