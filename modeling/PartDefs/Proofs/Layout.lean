import PartDefs.Assembly
import PartDefs.Proofs.Resolution.Members
import PartDefs.Proofs.Text.Blocks

/-!
# The layout of full definitions

The full definitions of a project are six blocks below each other.  The two hand-written fragments
may be empty and are dropped then; the other four start and end with characters that are not blank,
whatever the descriptors and the configuration say.  So normal layout acts on each block alone.
-/

namespace PartDefs

open Text (Solid)

namespace Luau

theorem solid_declaration (config : Config) (part : Part) :
    Solid (declaration config part).toList := by
  have split : (declaration config part).toList = ['t'] ++ ("ype " ++ part.name ++ " = \x7b\n" ++
      config.indent ++ (",\n" ++ config.indent).intercalate (members config part) ++
      "\n").toList ++ ['\x7d'] := by
    simp [declaration, braced]
  rw [split]
  exact (Solid.of_singleton (by decide)).append (.of_singleton (by decide)) _

theorem solid_overload (lookup : PortLookup) (config : Config) (tagType part : String) :
    Solid (lookup.overload config tagType part).toList := by
  have split : (lookup.overload config tagType part).toList = ['('] ++
      (signature [typed "port" config.portType, typed "partType" tagType] ++ " -> " ++
        lookup.returnType part).toList ++ [')'] := by
    simp [PortLookup.overload]
  rw [split]
  exact (Solid.of_singleton (by decide)).append (.of_singleton (by decide)) _

/-- The declaration of a lookup without its last newline. -/
theorem exists_lookup_eq (lookup : PortLookup) (config : Config) (parts : List String)
    (defaultPart : String) : ∃ body, Solid body ∧
      (lookup.declaration config parts defaultPart).toList = body ++ ['\n'] := by
  have overloads : Solid (("\n" ++ config.indent ++ "& ").toList.intercalate
      ((lookup.overloads config parts defaultPart).map String.toList)) := by
    refine Solid.intercalate _ (by simp [PortLookup.overloads]) ?_
    intro text listed
    obtain ⟨overload, member, rfl⟩ := List.mem_map.1 listed
    rcases List.mem_append.1 member with member | member
    · obtain ⟨part, -, rfl⟩ := List.mem_map.1 member
      exact solid_overload _ _ _ _
    · obtain rfl := List.mem_singleton.1 member
      exact solid_overload _ _ _ _
  refine ⟨_, (Solid.of_singleton (c := 'd') (by decide)).append overloads
    ("eclare " ++ lookup.name ++ ": ").toList, ?_⟩
  simp [PortLookup.declaration, typed]

/-- The port lookups without their last newline. -/
theorem exists_portGlobals_eq (config : Config) (parts : List String) (defaultPart : String) :
    ∃ body, Solid body ∧ (portGlobals config parts defaultPart).toList = body ++ ['\n'] := by
  obtain ⟨single, solid, first⟩ := exists_lookup_eq .single config parts defaultPart
  obtain ⟨many, solid', second⟩ := exists_lookup_eq .many config parts defaultPart
  refine ⟨_, solid.append solid' ['\n'], ?_⟩
  simp [portGlobals, PortLookup.all, first, second]

end Luau

/-- Where at least one part is declared, the declarations need no trimming. -/
theorem Resolution.solid_render {resolution : Resolution} (config : Config)
    (present : resolution.parts.entries ≠ []) :
    Solid (resolution.declare config).render.toList := by
  rw [render_declare, String.toList_intercalate]
  refine Solid.intercalate _ ?_ ?_
  · simpa [OrderedMap.values] using present
  · intro text listed
    obtain ⟨declaration, member, rfl⟩ := List.mem_map.1 listed
    obtain ⟨part, -, rfl⟩ := List.mem_map.1 member
    exact Luau.solid_declaration config part

/-! ## The blocks of the definitions -/

/-- The six blocks of the definitions, each collapsed by itself; the port lookups without their last
newline. -/
def Sources.blocks (sources : Sources) (config : Config) (generated : Generated)
    (defaultPart : String) : List (List Char) :=
  [Text.collapse (Text.trim sources.types.toList),
    partTypesHeader.toList,
    Text.collapse generated.render.toList,
    Text.collapse (Text.trim sources.globals.toList),
    portGlobalsHeader.toList,
    Text.collapse (Luau.portGlobals config generated.partNames defaultPart).toList.dropLast]

theorem solid_partTypesHeader : Solid partTypesHeader.toList := by
  have starts : partTypesHeader.toList.head? = some '-' := by decide
  have ends : partTypesHeader.toList.getLast? = some 's' := by decide
  exact .of_ends starts ends (by decide) (by decide)

theorem solid_portGlobalsHeader : Solid portGlobalsHeader.toList := by
  have starts : portGlobalsHeader.toList.head? = some '-' := by decide
  have ends : portGlobalsHeader.toList.getLast? = some 's' := by decide
  exact .of_ends starts ends (by decide) (by decide)

/-- Before it is put in order, the whole consists of trimmed blocks. -/
theorem Sources.normalize_layout {generated : Generated} (sources : Sources) (config : Config)
    (defaultPart : String) (solid : Solid generated.render.toList) :
    Text.normalize (sources.layout config generated defaultPart) =
      Text.unlines ((sources.blocks config generated defaultPart).filter (· ≠ [])) := by
  obtain ⟨lookups, solid', split⟩ :=
    Luau.exists_portGlobals_eq config generated.partNames defaultPart
  have layout : sources.layout config generated defaultPart = Text.unlines
      [Text.trim sources.types.toList, partTypesHeader.toList, generated.render.toList,
        Text.trim sources.globals.toList, portGlobalsHeader.toList, lookups] := by
    simp only [Sources.layout, block, split, Text.trim_eq_self solid_partTypesHeader.trimmed,
      Text.trim_eq_self solid_portGlobalsHeader.trimmed, Text.trim_eq_self solid.trimmed]
    simp
  have spaced : Text.Spaced
      [Text.trim sources.types.toList, partTypesHeader.toList, generated.render.toList,
        Text.trim sources.globals.toList, portGlobalsHeader.toList, lookups] :=
    .cons_cons (Text.isTrimmed_trim _) solid_partTypesHeader <| .solid solid <|
      .cons_cons (Text.isTrimmed_trim _) solid_portGlobalsHeader <| .solid solid' .nil
  have header : Text.collapse partTypesHeader.toList = partTypesHeader.toList := by decide
  have header' : Text.collapse portGlobalsHeader.toList = portGlobalsHeader.toList := by decide
  rw [layout, spaced.normalize_unlines (List.cons_ne_nil _ _), Text.tidy, Sources.blocks, split,
    List.dropLast_concat]
  simp only [List.map_cons, List.map_nil, header, header']

theorem Descriptors.entries_ne_nil_of_default {all : Descriptors} {resolution : Resolution}
    {defaultPart : String} (success : all.resolve = .ok resolution)
    (flagged : resolution.defaultPart = some defaultPart) : resolution.parts.entries ≠ [] := by
  intro empty
  have listed := ((defaultPart_eq_some_iff success defaultPart).1 flagged).mem_keys
  rw [← keys_of_resolve_eq_ok success, OrderedMap.keys, empty] at listed
  cases listed

/-- Where at least one part is declared, the definitions are the blocks that are not empty. -/
theorem Sources.assemble_eq_of_declared {sources : Sources} {resolution : Resolution}
    {defaultPart : String} (success : sources.parts.resolve = .ok resolution)
    (flagged : resolution.defaultPart = some defaultPart)
    (present : resolution.parts.entries ≠ []) (config : Config) :
    sources.assemble config = .ok (String.ofList (Text.unlines
      ((sources.blocks config (resolution.declare config) defaultPart).filter (· ≠ [])))) := by
  have generated : sources.parts.generate config = .ok (resolution.declare config) := by
    rw [Descriptors.generate_eq, success]
    rfl
  have named : (resolution.declare config).defaultPart = some defaultPart := flagged
  rw [assemble_eq_of_generate generated, definitions, named]
  simp only [normalize_layout sources config defaultPart (resolution.solid_render config present)]

/-- The full definitions are their blocks below each other, as far as these are not empty. -/
theorem Sources.assemble_eq_unlines {sources : Sources} {resolution : Resolution}
    {defaultPart : String} (success : sources.parts.resolve = .ok resolution)
    (flagged : resolution.defaultPart = some defaultPart) (config : Config) :
    sources.assemble config = .ok (String.ofList (Text.unlines
      ((sources.blocks config (resolution.declare config) defaultPart).filter (· ≠ [])))) := by
  have present := Descriptors.entries_ne_nil_of_default success flagged
  exact assemble_eq_of_declared success flagged present config

/-- A project whose first fragment is blank and whose second one has a run of three newlines. -/
def Sources.lampProject : Sources where
  types := " \n\n"
  globals := "\ndeclare lamps: number\n\n\ndeclare power: number\n"
  parts := .lampFamily

theorem Sources.lampProject_assemble :
    lampProject.parts.resolve = .ok .lampFamily ∧
      Resolution.lampFamily.defaultPart = some "Base" ∧
      lampProject.assemble {} = .ok (String.ofList (Text.unlines
        ((lampProject.blocks {} (Resolution.lampFamily.declare {}) "Base").filter (· ≠ [])))) := by
  have success : lampProject.parts.resolve = .ok .lampFamily := by decide +kernel
  exact ⟨success, rfl, assemble_eq_unlines success rfl {}⟩

end PartDefs
