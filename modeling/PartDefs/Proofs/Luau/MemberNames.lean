import Mathlib.Data.List.Forall2
import PartDefs.Proofs.Luau.Configure

/-!
# The names of members

A part type lists methods, properties and the member for events.  Methods and properties are merged
apart from each other.  Within each kind a name stands once, with what the nearest part declares
under it; a name that is declared as both kinds, by one part or by two on the same line, stands
twice.
-/

namespace PartDefs

/-- An overlay has the keys of its layers. -/
theorem Overlays.mem_keys_iff {α β : Type} {layers : List (OrderedMap String α)}
    {yields : String → α → β → Prop} {merged : OrderedMap String β}
    (overlays : Overlays layers yields merged) {key : String} :
    key ∈ merged.keys ↔ ∃ layer ∈ layers, key ∈ layer.keys := by
  rw [overlays.keys, List.mem_eraseDups, List.mem_flatMap]

namespace Luau

/-- The name of the member for events. -/
def connectName : String :=
  "Connect"

/-- The names of the members of a part, in the order of its declaration. -/
def memberNames (part : Part) : List String :=
  part.methods.keys ++ part.properties.keys ++ [connectName]

/-- A type declaration whose members have the given names, in this order. -/
inductive Declares (config : Config) (name : String) (names : List String) : String → Prop where
  | text {members : List String} :
      List.Forall₂ (fun name member => ∃ type, member = typed name type) names members →
      Declares config name names (typeText config name members)

/-- The parts of a line declare no name as a method and as a property, and they leave the name of
the member for events alone. -/
structure KindsApart (line : List Link) : Prop where
  apart : ∀ one ∈ line, ∀ other ∈ line, ∀ key ∈ one.2.methods.keys,
    key ∉ other.2.properties.keys
  methods : ∀ link ∈ line, connectName ∉ link.2.methods.keys
  properties : ∀ link ∈ line, connectName ∉ link.2.properties.keys

/-- How a part declares the members that the parts of its line have. -/
structure DeclaresMembers (config : Config) (line : List Link) (part : Part) : Prop where
  declares : Declares config part.name (memberNames part) (declaration config part)
  /-- No two methods have one name. -/
  methodsOnce : part.methods.keys.Nodup
  /-- No two properties have one name. -/
  propertiesOnce : part.properties.keys.Nodup
  /-- A method replaces the methods of its name that are declared further up. -/
  methods : Overlays (line.map (·.2.methods)) MethodDescriptor.Yields part.methods
  /-- A property replaces the properties of its name that are declared further up. -/
  properties : Overlays (line.map (·.2.properties)) (fun _ declared type => type = declared)
    part.properties
  /-- Two members have one name when they are of different kinds. -/
  distinct_iff : (memberNames part).Nodup ↔ KindsApart line

theorem declares_declaration (config : Config) (part : Part) :
    Declares config part.name (memberNames part) (declaration config part) := by
  rw [declaration_eq]
  refine .text (List.rel_append (List.rel_append ?_ ?_) ?_)
  · rw [OrderedMap.keys, List.forall₂_map_left_iff, List.forall₂_map_right_iff, List.forall₂_same]
    exact fun method _ => ⟨_, rfl⟩
  · rw [OrderedMap.keys, List.forall₂_map_left_iff, List.forall₂_map_right_iff, List.forall₂_same]
    exact fun property _ => ⟨_, rfl⟩
  · exact .cons ⟨_, rfl⟩ .nil

theorem nodup_memberNames_iff {part : Part} {name : String} {line : List Link}
    (collects : part.Collects name line) : (memberNames part).Nodup ↔ KindsApart line := by
  have method_iff (key : String) :
      key ∈ part.methods.keys ↔ ∃ link ∈ line, key ∈ link.2.methods.keys := by
    simp only [collects.methods.mem_keys_iff, List.mem_map, exists_exists_and_eq_and]
  have property_iff (key : String) :
      key ∈ part.properties.keys ↔ ∃ link ∈ line, key ∈ link.2.properties.keys := by
    simp only [collects.properties.mem_keys_iff, List.mem_map, exists_exists_and_eq_and]
  rw [memberNames, List.nodup_append, List.nodup_append]
  constructor
  · rintro ⟨⟨-, -, kinds⟩, -, last⟩
    constructor
    case apart =>
      intro one listed other member key method property
      exact kinds key ((method_iff key).2 ⟨one, listed, method⟩) key
        ((property_iff key).2 ⟨other, member, property⟩) rfl
    case methods =>
      intro link listed method
      have named := (method_iff connectName).2 ⟨link, listed, method⟩
      exact last _ (List.mem_append_left _ named) _ (List.mem_singleton_self _) rfl
    case properties =>
      intro link listed property
      have named := (property_iff connectName).2 ⟨link, listed, property⟩
      exact last _ (List.mem_append_right _ named) _ (List.mem_singleton_self _) rfl
  · intro kinds
    refine ⟨⟨part.methods.nodup_keys, part.properties.nodup_keys, ?_⟩, by simp, ?_⟩
    · rintro key method _ property rfl
      obtain ⟨one, listed, method⟩ := (method_iff key).1 method
      obtain ⟨other, member, property⟩ := (property_iff key).1 property
      exact kinds.apart one listed other member key method property
    · rintro key named _ last rfl
      obtain rfl := List.mem_singleton.1 last
      rcases List.mem_append.1 named with method | property
      · obtain ⟨link, listed, method⟩ := (method_iff _).1 method
        exact kinds.methods link listed method
      · obtain ⟨link, listed, property⟩ := (property_iff _).1 property
        exact kinds.properties link listed property

end Luau

/-- Every resolved part is declared with the members of its line: within a kind the nearest
declaration of a name replaces the others, and between the kinds nothing is replaced. -/
theorem Descriptors.declaresMembers_of_resolve_eq_ok {all : Descriptors} {resolution : Resolution}
    {name : String} {part : Part} (config : Config) (success : all.resolve = .ok resolution)
    (found : resolution.parts.get? name = some part) :
    ∃ line, all.Lineage name line ∧ Luau.DeclaresMembers config line part := by
  have declared : name ∈ all.keys :=
    keys_of_resolve_eq_ok success ▸ OrderedMap.mem_keys_of_get? found
  obtain ⟨line, settled, result⟩ := exists_settled_of_resolve_eq_ok success declared
  obtain rfl := Option.some.inj (found.symm.trans result)
  obtain ⟨descriptor, ancestors, -, rfl⟩ := settled.lineage.exists_cons
  have collects := collects_inheritAlong settled.wellFormed
  refine ⟨_, settled.lineage, ?_⟩
  exact
    { declares := Luau.declares_declaration config _
      methodsOnce := OrderedMap.nodup_keys _
      propertiesOnce := OrderedMap.nodup_keys _
      methods := collects.methods
      properties := collects.properties
      distinct_iff := Luau.nodup_memberNames_iff collects }

/-- The lamp has all members of its line, each under one name. -/
theorem Descriptors.lampFamily_declaresMembers :
    lampFamily.resolve = .ok .lampFamily ∧ ∃ lamp line,
      Resolution.lampFamily.parts.get? "Lamp" = some lamp ∧ lampFamily.Lineage "Lamp" line ∧
      Luau.DeclaresMembers {} line lamp ∧
      Luau.memberNames lamp = ["Switch", "Configure", "Power", "Name", "Connect"] := by
  have success : lampFamily.resolve = .ok .lampFamily := by decide +kernel
  obtain ⟨lamp, found⟩ : ∃ lamp, Resolution.lampFamily.parts.get? "Lamp" = some lamp :=
    OrderedMap.exists_get?_of_mem_keys (by decide +kernel)
  obtain ⟨line, lineage, declares⟩ := declaresMembers_of_resolve_eq_ok {} success found
  have names : (Resolution.lampFamily.parts.get? "Lamp").all fun lamp =>
      Luau.memberNames lamp = ["Switch", "Configure", "Power", "Name", "Connect"] := by
    decide +kernel
  rw [found] at names
  exact ⟨success, lamp, line, found, lineage, declares, of_decide_eq_true names⟩

/-- A lamp with a property that its base declares as a method, and a socket with a method that is
called as the member for events. -/
def Descriptors.clashingLamps : Descriptors := .ofList
  [("Base",
    { methods := .ofList [("Power", {})]
      events := .ofList [("Ready", [])] }),
    ("Lamp",
      { parent := some "Base"
        properties := .ofList [("Power", "number")] }),
    ("Socket",
      { methods := .ofList [("Connect", {})]
        events := .ofList [("Ready", [])] })]

/-- The clashing lamps with all inherited members. -/
def Resolution.clashingLamps : Resolution where
  parts := .ofList
    [("Base",
      { name := "Base"
        methods := .ofList [("Power", ⟨none, .call []⟩)]
        properties := ∅
        events := .ofList [("Ready", [])] }),
      ("Lamp",
        { name := "Lamp"
          methods := .ofList [("Power", ⟨none, .call []⟩)]
          properties := .ofList [("Power", "number")]
          events := .ofList [("Ready", [])] }),
      ("Socket",
        { name := "Socket"
          methods := .ofList [("Connect", ⟨none, .call []⟩)]
          properties := ∅
          events := .ofList [("Ready", [])] })]
  defaultPart := none

/-- The lamp does not replace the method by its property, and the socket has two members of one
name. -/
theorem Descriptors.clashingLamps_twice :
    clashingLamps.resolve = .ok .clashingLamps ∧
    (∃ lamp, Resolution.clashingLamps.parts.get? "Lamp" = some lamp ∧
      Luau.memberNames lamp = ["Power", "Power", "Connect"] ∧
      ¬(Luau.memberNames lamp).Nodup ∧
      Luau.declaration {} lamp = "type Lamp = \x7b\n    Power: (self: Lamp) -> (),\n    " ++
        "Power: number,\n    Connect: ((self: Lamp, event: \"Ready\", callback: () -> ()) -> " ++
        "EventConnection)\n\x7d") ∧
    ∃ socket, Resolution.clashingLamps.parts.get? "Socket" = some socket ∧
      Luau.memberNames socket = ["Connect", "Connect"] ∧
      ¬(Luau.memberNames socket).Nodup := by
  refine ⟨by decide +kernel, ⟨_, rfl, ?_, ?_, ?_⟩, _, rfl, ?_, ?_⟩
  all_goals decide +kernel

end PartDefs
