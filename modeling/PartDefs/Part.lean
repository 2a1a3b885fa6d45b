import PartDefs.Descriptor

/-!
# Parts

A part with members that are ready to be written out: parameters are single pairs of a name and a
type, and the method `Configure` has no parameters of its own, since they follow from the
properties.  A part inherits from another by taking over the members it lacks.
-/

namespace PartDefs

/-- A parameter of a method or of an event callback. -/
structure Param where
  name : String
  type : String
deriving DecidableEq

/-- Where the parameters of a method come from. -/
inductive MethodKind where
  /-- From the writable properties of the part. -/
  | configure
  /-- From the declaration. -/
  | call (arguments : List Param)
deriving DecidableEq

/-- A method of a part. -/
structure Method where
  /-- The return type, or nothing for the unit type. -/
  returns : Option String
  kind : MethodKind
deriving DecidableEq

/-- A part with all its members. -/
structure Part where
  name : String
  methods : OrderedMap String Method
  properties : OrderedMap String String
  events : OrderedMap String (List Param)
deriving DecidableEq

/-- The name of the method whose parameters follow from the properties. -/
def configureName : String := "Configure"

/-- The parameter that a sound entry declares. -/
def Entry.param? (entry : Entry) : Option Param :=
  match entry.entries with
  | [(name, type)] => some ⟨name, type⟩
  | _ => none

/-- Whether an entry does not hold exactly one pair. -/
def Entry.isMalformed (entry : Entry) : Bool :=
  entry.size ≠ 1

/-- The kind of a declared method. -/
def MethodDescriptor.kind (name : String) (method : MethodDescriptor) : MethodKind :=
  if name = configureName then .configure else .call (method.arguments.filterMap Entry.param?)

/-- The method that a descriptor declares under a name. -/
def MethodDescriptor.toMethod (name : String) (method : MethodDescriptor) : Method :=
  ⟨method.returns, method.kind name⟩

/-- The part with the own members of a descriptor. -/
def PartDescriptor.toPart (name : String) (descriptor : PartDescriptor) : Part where
  name := name
  methods := descriptor.methods.map MethodDescriptor.toMethod
  properties := descriptor.properties
  events := descriptor.events.map fun _ entries => entries.filterMap Entry.param?

/-- A part completed by the members of another that it lacks. -/
def Part.inherit (part parent : Part) : Part where
  name := part.name
  methods := part.methods.fillFrom parent.methods
  properties := part.properties.fillFrom parent.properties
  events := part.events.fillFrom parent.events

/-! ## Malformed entries -/

/-- Where in a part an entry stands. -/
inductive Location where
  | arguments (method : String)
  | event (name : String)
  /-- A place that is told in other words. -/
  | other (words : String)
deriving DecidableEq

/-- The entries of one list that are malformed, by location and size. -/
def malformedEntries (location : Location) (entries : List Entry) : List (Location × Nat) :=
  (entries.filter Entry.isMalformed).map fun entry => (location, entry.size)

/-- The malformed entries of a descriptor with their sizes, methods before events.  What is declared
for `Configure` does not count. -/
def PartDescriptor.malformed (descriptor : PartDescriptor) : List (Location × Nat) :=
  (descriptor.methods.entries.flatMap fun method =>
    if method.1 = configureName then []
    else malformedEntries (.arguments method.1) method.2.arguments) ++
  descriptor.events.entries.flatMap fun event => malformedEntries (.event event.1) event.2

end PartDefs
