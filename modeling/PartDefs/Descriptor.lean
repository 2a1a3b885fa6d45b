import PartDefs.OrderedMap

/-!
# Part descriptors

What a descriptor file declares, before anything is checked or inherited.  Every map keeps the
order of the file.
-/

namespace PartDefs

/-- One parameter as declared: a name and its type.  A sound entry has exactly one pair, but a
file may give any number. -/
abbrev Entry := OrderedMap String String

/-- A method as declared. -/
structure MethodDescriptor where
  /-- The return type, or nothing for the unit type. -/
  returns : Option String := none
  /-- The parameters after `self`. -/
  arguments : List Entry := []
deriving DecidableEq

/-- A part as declared: its own members and the part whose members it takes over. -/
structure PartDescriptor where
  /-- The name of the part that this one extends. -/
  parent : Option String := none
  /-- Whether port lookups fall back to this part. -/
  isDefault : Bool := false
  /-- Own methods. -/
  methods : OrderedMap String MethodDescriptor := ∅
  /-- Own properties with their types. -/
  properties : OrderedMap String String := ∅
  /-- Own events with the parameters of their callbacks. -/
  events : OrderedMap String (List Entry) := ∅
deriving DecidableEq

/-- All parts of a descriptor file by name. -/
abbrev Descriptors := OrderedMap String PartDescriptor

end PartDefs
