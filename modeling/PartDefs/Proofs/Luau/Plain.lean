import PartDefs.Proofs.Resolution.Members

/-!
# Plain descriptors

A text is plain if it has none of the characters that hold a declaration together.  Descriptors in
which all names and types are plain yield parts in which they are plain, too.
-/

namespace PartDefs

/-- The characters that hold a declaration together. -/
def Luau.marks : List Char :=
  ['(', ')', '\x7b', '\x7d', ',', ':', '"', '&', '\n']

/-- A text without marks. -/
def Luau.Plain (text : String) : Prop :=
  ∀ mark ∈ marks, mark ∉ text.toList

instance (text : String) : Decidable (Luau.Plain text) :=
  List.decidableBAll (· ∉ text.toList) Luau.marks

/-! ## Descriptors -/

/-- The names and types of an entry are plain. -/
def Entry.Plain (entry : Entry) : Prop :=
  ∀ pair ∈ entry.entries, Luau.Plain pair.1 ∧ Luau.Plain pair.2

/-- The types and the parameter names of a declared method are plain. -/
def MethodDescriptor.Plain (method : MethodDescriptor) : Prop :=
  (∀ type ∈ method.returns, Luau.Plain type) ∧ ∀ entry ∈ method.arguments, entry.Plain

/-- All names and types of a declared part are plain. -/
structure PartDescriptor.Plain (descriptor : PartDescriptor) : Prop where
  methods : ∀ method ∈ descriptor.methods.entries, Luau.Plain method.1 ∧ method.2.Plain
  properties : ∀ property ∈ descriptor.properties.entries,
    Luau.Plain property.1 ∧ Luau.Plain property.2
  events : ∀ event ∈ descriptor.events.entries,
    Luau.Plain event.1 ∧ ∀ entry ∈ event.2, entry.Plain

/-- All names and types of a mapping are plain. -/
def Descriptors.Plain (all : Descriptors) : Prop :=
  ∀ part ∈ all.entries, Luau.Plain part.1 ∧ part.2.Plain

instance (entry : Entry) : Decidable entry.Plain :=
  inferInstanceAs (Decidable (∀ pair ∈ entry.entries, Luau.Plain pair.1 ∧ Luau.Plain pair.2))

instance (method : MethodDescriptor) : Decidable method.Plain :=
  inferInstanceAs (Decidable
    ((∀ type ∈ method.returns, Luau.Plain type) ∧ ∀ entry ∈ method.arguments, entry.Plain))

instance (descriptor : PartDescriptor) : Decidable descriptor.Plain :=
  decidable_of_iff
    ((∀ method ∈ descriptor.methods.entries, Luau.Plain method.1 ∧ method.2.Plain) ∧
      (∀ property ∈ descriptor.properties.entries,
        Luau.Plain property.1 ∧ Luau.Plain property.2) ∧
      ∀ event ∈ descriptor.events.entries, Luau.Plain event.1 ∧ ∀ entry ∈ event.2, entry.Plain)
    ⟨fun ⟨methods, properties, events⟩ => ⟨methods, properties, events⟩,
      fun ⟨methods, properties, events⟩ => ⟨methods, properties, events⟩⟩

instance (all : Descriptors) : Decidable all.Plain :=
  inferInstanceAs (Decidable (∀ part ∈ all.entries, Luau.Plain part.1 ∧ part.2.Plain))

/-! ## Parts -/

/-- The name and the type of a parameter are plain. -/
def Param.Plain (param : Param) : Prop :=
  Luau.Plain param.name ∧ Luau.Plain param.type

/-- The types and parameter names of a method are plain, and its kind follows from its name. -/
structure Method.Plain (name : String) (method : Method) : Prop where
  returns : ∀ type ∈ method.returns, Luau.Plain type
  configure : method.kind = .configure ↔ name = configureName
  call : ∀ params, method.kind = .call params → ∀ param ∈ params, param.Plain

/-- All names and types of a part are plain. -/
structure Part.Plain (part : Part) : Prop where
  name : Luau.Plain part.name
  methods : ∀ method ∈ part.methods.entries, Luau.Plain method.1 ∧ method.2.Plain method.1
  properties : ∀ property ∈ part.properties.entries,
    Luau.Plain property.1 ∧ Luau.Plain property.2
  events : ∀ event ∈ part.events.entries,
    Luau.Plain event.1 ∧ ∀ param ∈ event.2, param.Plain

/-- The parameters of plain entries are plain. -/
theorem Entry.plain_filterMap {entries : List Entry} (plain : ∀ entry ∈ entries, entry.Plain) :
    ∀ param ∈ entries.filterMap Entry.param?, param.Plain := by
  intro param listed
  obtain ⟨entry, member, found⟩ := List.mem_filterMap.1 listed
  have pairs := plain entry member
  rw [Entry.Plain] at pairs
  rw [Entry.param?] at found
  split at found
  · next name type single =>
      obtain rfl := Option.some.inj found
      exact pairs (name, type) (single ▸ List.mem_cons_self)
  · cases found

theorem MethodDescriptor.Plain.toMethod {method : MethodDescriptor} (plain : method.Plain)
    (name : String) : (method.toMethod name).Plain name where
  returns := plain.1
  configure := by
    by_cases same : name = configureName <;> simp [MethodDescriptor.toMethod, kind, same]
  call := by
    intro params declared
    by_cases same : name = configureName
    · simp [MethodDescriptor.toMethod, kind, same] at declared
    · have params_eq : method.arguments.filterMap Entry.param? = params := by
        simpa [MethodDescriptor.toMethod, kind, same] using declared
      rw [← params_eq]
      exact Entry.plain_filterMap plain.2

theorem PartDescriptor.Plain.toPart {descriptor : PartDescriptor} {name : String}
    (plain : descriptor.Plain) (plain' : Luau.Plain name) : (descriptor.toPart name).Plain where
  name := plain'
  methods := by
    intro method listed
    obtain ⟨declared, member, rfl⟩ := List.mem_map.1 listed
    obtain ⟨named, typed⟩ := plain.methods declared member
    exact ⟨named, typed.toMethod declared.1⟩
  properties := plain.properties
  events := by
    intro event listed
    obtain ⟨declared, member, rfl⟩ := List.mem_map.1 listed
    obtain ⟨named, entries⟩ := plain.events declared member
    exact ⟨named, Entry.plain_filterMap entries⟩

theorem Part.Plain.inherit {part above : Part} (plain : part.Plain) (plain' : above.Plain) :
    (part.inherit above).Plain where
  name := plain.name
  methods := OrderedMap.forall_mem_fillFrom plain.methods plain'.methods
  properties := OrderedMap.forall_mem_fillFrom plain.properties plain'.properties
  events := OrderedMap.forall_mem_fillFrom plain.events plain'.events

theorem plain_inheritAlong {line : List Link}
    (plain : ∀ link ∈ line, Luau.Plain link.1 ∧ link.2.Plain) : (inheritAlong line).Plain := by
  induction line with
  | nil => exact ⟨by decide, by simp [inheritAlong], by simp [inheritAlong], by simp [inheritAlong]⟩
  | cons link line ih =>
      obtain ⟨⟨named, declared⟩, later⟩ := List.forall_mem_cons.1 plain
      exact (declared.toPart named).inherit (ih later)

/-- The parts of plain descriptors are plain and bear the names under which they are listed. -/
theorem Descriptors.Plain.parts {all : Descriptors} {resolution : Resolution} (plain : all.Plain)
    (success : all.resolve = .ok resolution) :
    ∀ entry ∈ resolution.parts.entries, entry.2.name = entry.1 ∧ entry.2.Plain := by
  rintro ⟨name, part⟩ listed
  have found := OrderedMap.get?_eq_some_iff.2 listed
  have declared : name ∈ all.keys :=
    keys_of_resolve_eq_ok success ▸ OrderedMap.mem_keys_of_get? found
  obtain ⟨line, settled, result⟩ := exists_settled_of_resolve_eq_ok success declared
  obtain rfl := Option.some.inj (found.symm.trans result)
  obtain ⟨descriptor, ancestors, -, rfl⟩ := settled.lineage.exists_cons
  exact ⟨rfl, plain_inheritAlong fun link member =>
    plain link (settled.lineage.mem_entries link member)⟩

end PartDefs
