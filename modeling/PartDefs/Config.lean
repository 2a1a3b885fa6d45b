/-!
# Configuration

The choices that the written definitions depend on, with their usual values.
-/

namespace PartDefs

/-- The choices for written definitions. -/
structure Config where
  /-- Indentation of the members of a part type. -/
  indent : String := "    "
  /-- Return type of methods that declare none, and of event callbacks. -/
  unitType : String := "()"
  /-- Return type of `Connect`. -/
  connectionType : String := "EventConnection"
  /-- Type of the first parameter of the port lookups. -/
  portType : String := "PortLike"
  /-- Properties that `Configure` does not accept. -/
  readonlyProperties : List String := ["ClassName", "Position", "CFrame", "GUID"]
  /-- First line of a file of part types alone. -/
  pragma : String := "--!nocheck"
deriving DecidableEq

/-- Whether `Configure` leaves out a property. -/
def Config.isReadonly (config : Config) (property : String) : Bool :=
  config.readonlyProperties.contains property

@[simp]
theorem Config.isReadonly_iff {config : Config} {property : String} :
    config.isReadonly property = true ↔ property ∈ config.readonlyProperties := by
  simp [isReadonly]

end PartDefs
