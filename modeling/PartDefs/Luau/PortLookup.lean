import PartDefs.Luau.Declaration

/-!
# Port lookups

Two global functions find parts behind a port.  Each has an overload for every part, chosen by the
name of the part as a string literal, and a last one for any other string, which returns the
default part.
-/

namespace PartDefs.Luau

/-- The two lookups. -/
inductive PortLookup where
  /-- Finds one part. -/
  | single
  /-- Finds a list of parts. -/
  | many
deriving DecidableEq

namespace PortLookup

/-- Both lookups in the order in which they are declared. -/
def all : List PortLookup := [single, many]

/-- The name of the global function. -/
def name : PortLookup → String
  | single => "GetPartFromPort"
  | many => "GetPartsFromPort"

/-- What the function returns for a part. -/
def returnType (part : String) : PortLookup → String
  | single => part
  | many => braced part

/-- The overload that takes a tag of a given type and returns a given part. -/
def overload (lookup : PortLookup) (config : Config) (tagType part : String) : String :=
  "(" ++ signature [typed "port" config.portType, typed "partType" tagType] ++ " -> " ++
    lookup.returnType part ++ ")"

/-- The overloads in the order of the parts, the one for any other string last. -/
def overloads (lookup : PortLookup) (config : Config) (parts : List String)
    (defaultPart : String) : List String :=
  parts.map (fun part => lookup.overload config ("\"" ++ part ++ "\"") part) ++
    [lookup.overload config "string" defaultPart]

/-- The declaration of the global function, with a newline at its end. -/
def declaration (lookup : PortLookup) (config : Config) (parts : List String)
    (defaultPart : String) : String :=
  "declare " ++ typed lookup.name
    (("\n" ++ config.indent ++ "& ").intercalate (lookup.overloads config parts defaultPart)) ++
    "\n"

end PortLookup

/-- The declarations of both lookups. -/
def portGlobals (config : Config) (parts : List String) (defaultPart : String) : String :=
  String.join (PortLookup.all.map fun lookup => lookup.declaration config parts defaultPart)

end PartDefs.Luau
