import PartDefs.Proofs.Resolution.Outcome

/-!
# The members of resolved parts

A resolved part has the members that it and its ancestors declare: every name once, where it first
occurs on the way up, with the declaration found there.  Nothing depends on the order in which the
parts were resolved.
-/

namespace PartDefs

/-- What a declared method becomes under its name: the return type is taken over, and unless the
name is that of `Configure` so are the parameters. -/
structure MethodDescriptor.Yields (name : String) (declared : MethodDescriptor) (method : Method) :
    Prop where
  returns : method.returns = declared.returns
  configure : method.kind = .configure ↔ name = configureName
  call : name ≠ configureName → ∃ params, method.kind = .call params ∧
    Spells declared.arguments params

/-- A map made from layers of declarations: it lists the keys of all layers where they first occur,
and each value comes from what the first layer with that key declares. -/
structure Overlays {α β : Type} (layers : List (OrderedMap String α))
    (yields : String → α → β → Prop) (merged : OrderedMap String β) : Prop where
  keys : merged.keys = (layers.flatMap OrderedMap.keys).eraseDups
  values : ∀ key declared, layers.findSome? (·.get? key) = some declared →
    ∃ value, merged.get? key = some value ∧ yields key declared value

/-- A part has exactly the members that the parts of a line declare, the first ones going before. -/
structure Part.Collects (part : Part) (name : String) (line : List Link) :
    Prop where
  named : part.name = name
  methods : Overlays (line.map (·.2.methods)) MethodDescriptor.Yields part.methods
  properties : Overlays (line.map (·.2.properties)) (fun _ declared type => type = declared)
    part.properties
  events : Overlays (line.map (·.2.events)) (fun _ entries params => Spells entries params)
    part.events

/-- The closed form of a resolution. -/
structure Resolution.ClosedForm (all : Descriptors) (resolution : Resolution) : Prop where
  /-- The parts are those of the mapping, in its order. -/
  keys : resolution.parts.keys = all.keys
  /-- Every part has a line up to one without parent. -/
  lineage : ∀ name ∈ all.keys, ∃ line, all.Lineage name line
  /-- Every part has the members of its line. -/
  collects : ∀ name line, all.Lineage name line →
    ∃ part, resolution.parts.get? name = some part ∧ part.Collects name line
  /-- The default is the part whose own descriptor claims it. -/
  default_iff : ∀ name, resolution.defaultPart = some name ↔ all.Flagged name

/-! ## Merging as overlaying -/

/-- Translating declarations and laying them over each other yields what each declaration yields. -/
theorem overlays_overlay {α β : Type} {layers : List (OrderedMap String α)}
    {yields : String → α → β → Prop} (translate : String → α → β)
    (sound : ∀ layer ∈ layers, ∀ key declared, layer.get? key = some declared →
      yields key declared (translate key declared)) :
    Overlays layers yields (OrderedMap.overlay (layers.map (·.map translate))) where
  keys := by
    rw [OrderedMap.keys_overlay, List.flatMap_map]
    simp only [OrderedMap.keys_map]
  values := by
    intro key declared first
    obtain ⟨layer, listed, found⟩ := List.exists_of_findSome?_eq_some first
    refine ⟨translate key declared, ?_, sound layer listed key declared found⟩
    rw [OrderedMap.get?_overlay, List.findSome?_map]
    have translated : ((fun merged : OrderedMap String β => merged.get? key) ∘
        fun layer : OrderedMap String α => layer.map translate) =
        Option.map (translate key) ∘ fun layer => layer.get? key := by
      funext layer
      simp
    rw [translated, ← List.map_findSome?, first, Option.map_some]

theorem MethodDescriptor.yields_toMethod {name : String} {declared : MethodDescriptor}
    (single : name ≠ configureName → ∀ entry ∈ declared.arguments, entry.size = 1) :
    declared.Yields name (declared.toMethod name) where
  returns := rfl
  configure := by
    by_cases same : name = configureName <;> simp [toMethod, kind, same]
  call := by
    intro other
    exact ⟨_, by simp [toMethod, kind, other], spells_filterMap (single other)⟩

/-- The part that results from a line of well formed descriptors has the members of the line. -/
theorem collects_inheritAlong {name : String} {descriptor : PartDescriptor}
    {ancestors : List Link}
    (wellFormed : ∀ link ∈ (name, descriptor) :: ancestors, link.2.WellFormed) :
    (inheritAlong ((name, descriptor) :: ancestors)).Collects name
      ((name, descriptor) :: ancestors) where
  named := rfl
  methods := by
    rw [methods_inheritAlong]
    refine overlays_overlay _ fun layer listed key declared found => ?_
    obtain ⟨link, member, rfl⟩ := List.mem_map.1 listed
    exact MethodDescriptor.yields_toMethod
      ((wellFormed link member).arguments _ (OrderedMap.get?_eq_some_iff.1 found))
  properties := by
    rw [properties_inheritAlong]
    have plain : Overlays (((name, descriptor) :: ancestors).map (·.2.properties))
        (fun _ declared type => type = declared)
        (OrderedMap.overlay ((((name, descriptor) :: ancestors).map (·.2.properties)).map
          (·.map fun _ type => type))) :=
      overlays_overlay _ fun _ _ _ _ _ => rfl
    simpa only [OrderedMap.map_value, List.map_id'] using plain
  events := by
    rw [events_inheritAlong]
    refine overlays_overlay _ fun layer listed key declared found => ?_
    obtain ⟨link, member, rfl⟩ := List.mem_map.1 listed
    exact spells_filterMap
      ((wellFormed link member).events _ (OrderedMap.get?_eq_some_iff.1 found))

/-! ## Resolved parts -/

namespace Resolution

variable {all : Descriptors} {state : State}

/-- When all parts are resolved, the outcome lists them as the mapping does. -/
theorem keys_ofState (complete : ∀ name ∈ all.keys, name ∈ state.resolved.keys) :
    (ofState all state).parts.keys = all.keys := by
  rw [parts_ofState]
  refine OrderedMap.keys_filterMap_of_isSome fun entry member => ?_
  have listed : entry.1 ∈ all.keys := List.mem_map_of_mem member
  obtain ⟨part, found⟩ := OrderedMap.exists_get?_of_mem_keys (complete _ listed)
  simp [found]

theorem get?_ofState {name : String} (declared : name ∈ all.keys) :
    (ofState all state).parts.get? name = state.resolved.get? name := by
  obtain ⟨descriptor, found⟩ := OrderedMap.exists_get?_of_mem_keys declared
  simp [parts_ofState, found]

end Resolution

/-- Every part comes out as what its line yields. -/
theorem Resolution.State.Sound.get?_parts {all : Descriptors} {state : State} {name : String}
    (sound : state.Sound all) (complete : ∀ name ∈ all.keys, name ∈ state.resolved.keys)
    (declared : name ∈ all.keys) :
    ∃ line, Settled all name line ∧
      (ofState all state).parts.get? name = some (inheritAlong line) := by
  obtain ⟨part, resolved⟩ := OrderedMap.exists_get?_of_mem_keys (complete name declared)
  obtain ⟨line, settled, rfl⟩ := sound.settled name part resolved
  exact ⟨line, settled, (get?_ofState declared).trans resolved⟩

theorem Resolution.State.Sound.closedForm {all : Descriptors} {state : State}
    (sound : state.Sound all) (complete : ∀ name ∈ all.keys, name ∈ state.resolved.keys) :
    (ofState all state).ClosedForm all where
  keys := keys_ofState complete
  lineage := by
    intro name declared
    obtain ⟨line, settled⟩ := sound.exists_settled (complete name declared)
    exact ⟨line, settled.lineage⟩
  collects := by
    intro name line lineage
    obtain ⟨descriptor, ancestors, found, rfl⟩ := lineage.exists_cons
    obtain ⟨_, settled, result⟩ :=
      sound.get?_parts complete (OrderedMap.mem_keys_of_get? found)
    obtain rfl := settled.lineage.unique lineage
    exact ⟨_, result, collects_inheritAlong settled.wellFormed⟩
  default_iff := by
    intro name
    refine (sound.default_iff name).trans ⟨And.right, fun flagged => ⟨?_, flagged⟩⟩
    exact complete name flagged.mem_keys

/-- A successful resolution gives every part what its line yields. -/
theorem Descriptors.exists_settled_of_resolve_eq_ok {all : Descriptors} {resolution : Resolution}
    {name : String} (success : all.resolve = .ok resolution) (declared : name ∈ all.keys) :
    ∃ line, Settled all name line ∧ resolution.parts.get? name = some (inheritAlong line) := by
  obtain ⟨state, sound, complete, rfl⟩ := exists_sound_of_resolve_eq_ok success
  exact sound.get?_parts complete declared

theorem Descriptors.keys_of_resolve_eq_ok {all : Descriptors} {resolution : Resolution}
    (success : all.resolve = .ok resolution) : resolution.parts.keys = all.keys := by
  obtain ⟨state, sound, complete, rfl⟩ := exists_sound_of_resolve_eq_ok success
  exact Resolution.keys_ofState complete

theorem Descriptors.defaultPart_eq_some_iff {all : Descriptors} {resolution : Resolution}
    (success : all.resolve = .ok resolution) (name : String) :
    resolution.defaultPart = some name ↔ all.Flagged name := by
  obtain ⟨state, sound, complete, rfl⟩ := exists_sound_of_resolve_eq_ok success
  exact (sound.closedForm complete).default_iff name

/-- Every successful resolution has the closed form. -/
theorem Descriptors.closedForm_of_resolve_eq_ok {all : Descriptors} {resolution : Resolution}
    (success : all.resolve = .ok resolution) : resolution.ClosedForm all := by
  rcases all.resolve_outcome with ⟨state, sound, complete, final⟩ | ⟨fault, -, failure⟩
  · obtain rfl := Except.ok.inj (final.symm.trans success)
    exact sound.closedForm complete
  · rw [failure] at success
    cases success

/-- A lamp, listed before the two parts that it inherits from; it declares a method and a property
anew. -/
def Descriptors.lampFamily : Descriptors := .ofList
  [("Lamp",
    { parent := some "Device"
      methods := .ofList [("Switch", { arguments := [.ofList [("on", "boolean")]] })]
      properties := .ofList [("Power", "number")] }),
    ("Base",
      { isDefault := true
        properties := .ofList [("Name", "string"), ("Power", "string")]
        events := .ofList [("Ready", [])] }),
    ("Device",
      { parent := some "Base"
        methods := .ofList [("Configure", {}), ("Switch", { returns := some "boolean" })] })]

/-- The lamp family with all inherited members. -/
def Resolution.lampFamily : Resolution where
  parts := .ofList
    [("Lamp",
      { name := "Lamp"
        methods := .ofList
          [("Switch", ⟨none, .call [⟨"on", "boolean"⟩]⟩), ("Configure", ⟨none, .configure⟩)]
        properties := .ofList [("Power", "number"), ("Name", "string")]
        events := .ofList [("Ready", [])] }),
      ("Base",
        { name := "Base"
          methods := ∅
          properties := .ofList [("Name", "string"), ("Power", "string")]
          events := .ofList [("Ready", [])] }),
      ("Device",
        { name := "Device"
          methods := .ofList
            [("Configure", ⟨none, .configure⟩), ("Switch", ⟨some "boolean", .call []⟩)]
          properties := .ofList [("Name", "string"), ("Power", "string")]
          events := .ofList [("Ready", [])] })]
  defaultPart := some "Base"

theorem Descriptors.lampFamily_closedForm :
    lampFamily.resolve = .ok .lampFamily ∧ Resolution.lampFamily.ClosedForm lampFamily := by
  have success : lampFamily.resolve = .ok .lampFamily := by decide +kernel
  exact ⟨success, closedForm_of_resolve_eq_ok success⟩

end PartDefs
