import PartDefs.Config
import PartDefs.Resolution

/-!
# Part types

A part is written as a table type.  Its members are the methods, then the properties, then one
member `Connect` with an overload for each event.
-/

namespace PartDefs.Luau

/-- Text in braces. -/
def braced (text : String) : String :=
  "\x7b" ++ text ++ "\x7d"

/-- A name with its type. -/
def typed (name type : String) : String :=
  name ++ ": " ++ type

/-- A parameter as it stands in a signature. -/
def param (p : Param) : String :=
  typed p.name p.type

/-- The first parameter of everything that is called on a part. -/
def selfParam (part : Part) : String :=
  typed "self" part.name

/-- Parameters in parentheses. -/
def signature (params : List String) : String :=
  "(" ++ ", ".intercalate params ++ ")"

/-- The record that `Configure` takes: every writable property, each of them optional. -/
def configureRecord (config : Config) (part : Part) : String :=
  let writable := part.properties.entries.filter fun property => !config.isReadonly property.1
  braced (", ".intercalate (writable.map fun property => typed property.1 property.2 ++ "?"))

/-- The parameters of a method after the first. -/
def methodParams (config : Config) (part : Part) : MethodKind → List String
  | .configure => [typed "properties" (configureRecord config part)]
  | .call arguments => arguments.map param

/-- A method as a member of its part. -/
def methodMember (config : Config) (part : Part) (name : String) (method : Method) : String :=
  typed name
    (signature (selfParam part :: methodParams config part method.kind) ++ " -> " ++
      method.returns.getD config.unitType)

/-- The overload of `Connect` for one event. -/
def connectOverload (config : Config) (part : Part) (event : String) (params : List Param) :
    String :=
  let callback := signature (params.map param) ++ " -> " ++ config.unitType
  "(" ++ signature [selfParam part, typed "event" ("\"" ++ event ++ "\""),
    typed "callback" callback] ++ " -> " ++ config.connectionType ++ ")"

/-- The member `Connect`, with an overload for each event. -/
def connectMember (config : Config) (part : Part) : String :=
  typed "Connect" (("\n" ++ config.indent ++ config.indent ++ "& ").intercalate
    (part.events.entries.map fun event => connectOverload config part event.1 event.2))

/-- The members of a part type in the order in which they are written. -/
def members (config : Config) (part : Part) : List String :=
  part.methods.entries.map (fun method => methodMember config part method.1 method.2) ++
    part.properties.entries.map (fun property => typed property.1 property.2) ++
    [connectMember config part]

/-- The declaration of a part type. -/
def declaration (config : Config) (part : Part) : String :=
  "type " ++ part.name ++ " = " ++
    braced ("\n" ++ config.indent ++
      (",\n" ++ config.indent).intercalate (members config part) ++ "\n")

end PartDefs.Luau

namespace PartDefs

/-- The declarations of all parts by name, in the order of the descriptors, and the default
part. -/
structure Generated where
  declarations : OrderedMap String String
  defaultPart : Option String
deriving DecidableEq

namespace Generated

/-- The names of the declared parts. -/
def partNames (generated : Generated) : List String :=
  generated.declarations.keys

/-- All declarations, one after another. -/
def render (generated : Generated) : String :=
  "\n".intercalate generated.declarations.values

end Generated

/-- Declares the parts of a resolution. -/
def Resolution.declare (resolution : Resolution) (config : Config) : Generated where
  declarations := resolution.parts.map fun _ part => Luau.declaration config part
  defaultPart := resolution.defaultPart

theorem Resolution.render_declare (resolution : Resolution) (config : Config) :
    (resolution.declare config).render =
      "\n".intercalate (resolution.parts.values.map (Luau.declaration config)) := by
  simp [Generated.render, declare, OrderedMap.values, OrderedMap.map, Function.comp_def]

/-- Resolves and declares all parts, giving notice of each. -/
def Descriptors.generateTraced (all : Descriptors) (config : Config) :
    Traced PartFault Generated := do
  return (← all.resolveTraced).declare config

/-- Resolves and declares all parts. -/
def Descriptors.generate (all : Descriptors) (config : Config) : Except PartFault Generated :=
  (all.generateTraced config).result

theorem Descriptors.generate_eq (all : Descriptors) (config : Config) :
    all.generate config = all.resolve.map (·.declare config) := by
  rw [generate, generateTraced, Traced.bind_eq, Traced.result_bind, resolve]
  cases all.resolveTraced.result <;> rfl

end PartDefs
