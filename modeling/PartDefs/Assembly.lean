import PartDefs.Luau.PortLookup
import PartDefs.Text.Newlines

/-!
# Definition files

Two kinds of files are made from descriptors.  The full definitions put the part types and the port
lookups between two hand-written fragments; a file of part types alone starts with the pragma and
has nothing else around them.
-/

namespace PartDefs

/-- What the full definitions of a project are made from. -/
structure Sources where
  /-- The fragment in front of the part types. -/
  types : String
  /-- The fragment behind the part types. -/
  globals : String
  parts : Descriptors
deriving DecidableEq

/-- Why there are no full definitions. -/
inductive AssemblyFault where
  /-- The descriptors are faulty. -/
  | part (fault : PartFault)
  /-- The port lookups lack a default part. -/
  | noDefaultPart
deriving DecidableEq

/-- The line in front of the part types. -/
def partTypesHeader : String := "-- Part Types"

/-- The line in front of the port lookups. -/
def portGlobalsHeader : String := "-- Port-related microcontroller globals"

/-- A block of the definitions: trimmed and ended by a newline. -/
def block (text : String) : List Char :=
  Text.trim text.toList ++ ['\n']

/-- The definitions before their layout is put in order. -/
def Sources.layout (sources : Sources) (config : Config) (generated : Generated)
    (defaultPart : String) : List Char :=
  block sources.types ++ block partTypesHeader ++ block generated.render ++
    block sources.globals ++ block portGlobalsHeader ++
    (Luau.portGlobals config generated.partNames defaultPart).toList

/-- The text of the full definitions of generated parts. -/
def Sources.definitions (sources : Sources) (config : Config) (generated : Generated) :
    Except AssemblyFault String :=
  match generated.defaultPart with
  | none => .error .noDefaultPart
  | some defaultPart =>
      .ok (String.ofList (Text.normalize (sources.layout config generated defaultPart)))

/-- The full definitions, giving notice of each part resolved. -/
def Sources.assembleTraced (sources : Sources) (config : Config) : Traced AssemblyFault String :=
  ((sources.parts.generateTraced config).mapError .part).bind fun generated =>
    .ofExcept (sources.definitions config generated)

/-- The full definitions. -/
def Sources.assemble (sources : Sources) (config : Config) : Except AssemblyFault String :=
  (sources.assembleTraced config).result

theorem Sources.assemble_eq_of_generate {sources : Sources} {config : Config}
    {generated : Generated} (success : sources.parts.generate config = .ok generated) :
    sources.assemble config = sources.definitions config generated := by
  rw [Descriptors.generate] at success
  rw [assemble, assembleTraced, Traced.result_bind, Traced.mapError, success]
  rfl

/-- A file of part types alone, giving notice of each part resolved. -/
def Descriptors.standaloneTraced (all : Descriptors) (config : Config) :
    Traced PartFault String := do
  return config.pragma ++ "\n" ++ (← all.generateTraced config).render

/-- A file of part types alone. -/
def Descriptors.standalone (all : Descriptors) (config : Config) : Except PartFault String :=
  (all.standaloneTraced config).result

theorem Descriptors.standalone_eq (all : Descriptors) (config : Config) :
    all.standalone config =
      (all.generate config).map fun generated => config.pragma ++ "\n" ++ generated.render := by
  rw [standalone, standaloneTraced, Traced.bind_eq, Traced.result_bind, generate]
  cases (all.generateTraced config).result <;> rfl

end PartDefs
