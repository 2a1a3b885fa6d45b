import PartDefs.Proofs.Layout
import PartDefs.Proofs.Luau.Configure

/-!
# The overloads of the port lookups

Both port lookups follow one table.  It has a row for every part, which is selected by the name of
the part and returns that part, and a last row that takes any string and returns the default part.
The names in the table are those under which the parts are declared, so the table neither returns a
type that is not declared nor misses one that is.  The full definitions show both: the declarations
stand in their third block, and the two lookups in their last one.
-/

namespace PartDefs

namespace Luau

/-- One row of the table that the lookups follow. -/
structure Overload where
  /-- The tag that selects the row, or nothing if any string does. -/
  tag : Option String
  /-- The part that is returned. -/
  part : String
deriving DecidableEq

namespace Overload

/-- The type of the tag: one literal, or any string. -/
def tagType (row : Overload) : String :=
  match row.tag with
  | some tag => "\"" ++ tag ++ "\""
  | none => "string"

/-- A row as it is written by a lookup that returns the given type for a part. -/
def written (config : Config) (returned : String → String) (row : Overload) : String :=
  "((port: " ++ config.portType ++ ", partType: " ++ row.tagType ++ ") -> " ++
    returned row.part ++ ")"

/-- The row of a part. -/
def ofPart (name : String) : Overload :=
  ⟨some name, name⟩

/-- The row for any other string. -/
def fallback (defaultPart : String) : Overload :=
  ⟨none, defaultPart⟩

/-- The rows in the order in which they are written. -/
def table (names : List String) (defaultPart : String) : List Overload :=
  names.map ofPart ++ [fallback defaultPart]

/-- The declaration of a lookup with the given rows. -/
def lookupText (config : Config) (function : String) (returned : String → String)
    (rows : List Overload) : String :=
  "declare " ++ function ++ ": " ++ ("\n" ++ config.indent ++ "& ").intercalate
    (rows.map (written config returned))

/-- The declarations of both lookups.  They differ in the name of the function and in what a row
returns: a part, or a list of parts. -/
def lookupsText (config : Config) (rows : List Overload) : String :=
  lookupText config "GetPartFromPort" (fun part => part) rows ++ "\n" ++
    lookupText config "GetPartsFromPort" (fun part => "\x7b" ++ part ++ "\x7d") rows

theorem lookupsText_ne_nil (config : Config) (rows : List Overload) :
    (lookupsText config rows).toList ≠ [] := by
  simp [lookupsText, lookupText]

end Overload

/-- The rows for some parts and a default part, by their places. -/
structure Tabulates (names : List String) (defaultPart : String) (rows : List Overload) :
    Prop where
  size : rows.length = names.length + 1
  tagged : ∀ (place : Nat) (name : String), names[place]? = some name →
    rows[place]? = some ⟨some name, name⟩
  fallback : rows.getLast? = some ⟨none, defaultPart⟩

theorem tabulates_table (names : List String) (defaultPart : String) :
    Tabulates names defaultPart (Overload.table names defaultPart) where
  size := by simp [Overload.table]
  tagged := by
    intro place name listed
    have inside : place < (names.map Overload.ofPart).length := by
      simpa using (List.getElem?_eq_some_iff.1 listed).1
    rw [Overload.table, List.getElem?_append_left inside, List.getElem?_map, listed]
    rfl
  fallback := by simp [Overload.table, Overload.fallback]

/-- A part is returned by one row with a tag if it is listed once. -/
theorem filter_table_eq {names : List String} {name : String} (distinct : names.Nodup)
    (listed : name ∈ names) (defaultPart : String) :
    (Overload.table names defaultPart).filter (fun row => row.tag.isSome && row.part == name) =
      [Overload.ofPart name] := by
  have alone : names.filter (· == name) = [name] := by
    rw [List.filter_beq, distinct.count, if_pos listed, List.replicate_one]
  have rows : (names.map Overload.ofPart).filter (fun row => row.tag.isSome && row.part == name) =
      (names.filter (· == name)).map Overload.ofPart := by
    rw [List.filter_map]
    rfl
  rw [Overload.table, List.filter_append, rows, alone]
  rfl

/-- Each row has a tag of its own. -/
theorem nodup_tag_table {names : List String} (distinct : names.Nodup) (defaultPart : String) :
    ((Overload.table names defaultPart).map Overload.tag).Nodup := by
  have tags : (Overload.table names defaultPart).map Overload.tag = names.map some ++ [none] := by
    simp [Overload.table, Overload.ofPart, Overload.fallback]
  have literals : (names.map some).Nodup :=
    List.Pairwise.map some (fun _ _ apart same => apart (Option.some.inj same)) distinct
  rw [tags, List.nodup_append]
  exact ⟨literals, by simp, by simp⟩

/-! ## What the lookups write -/

theorem overload_eq (lookup : PortLookup) (config : Config) (tagType part : String) :
    lookup.overload config tagType part =
      "((port: " ++ config.portType ++ ", partType: " ++ tagType ++ ") -> " ++
        lookup.returnType part ++ ")" := by
  apply String.toList_injective
  simp [PortLookup.overload, signature, typed]

/-- A lookup writes the rows of the table and nothing else. -/
theorem overloads_eq_map_written (lookup : PortLookup) (config : Config) (names : List String)
    (defaultPart : String) :
    lookup.overloads config names defaultPart =
      (Overload.table names defaultPart).map (Overload.written config (lookup.returnType ·)) := by
  have row (row : Overload) : lookup.overload config row.tagType row.part =
      row.written config (lookup.returnType ·) :=
    overload_eq lookup config row.tagType row.part
  rw [Overload.table, List.map_append, List.map_map, PortLookup.overloads]
  congr 1
  · exact List.map_congr_left fun name _ => row (.ofPart name)
  · exact congrArg (fun text => [text]) (row (.fallback defaultPart))

example : PortLookup.many.overloads {} ["Lamp", "Base"] "Base" =
    ["((port: PortLike, partType: \"Lamp\") -> \x7bLamp\x7d)",
      "((port: PortLike, partType: \"Base\") -> \x7bBase\x7d)",
      "((port: PortLike, partType: string) -> \x7bBase\x7d)"] := by
  decide +kernel

theorem declaration_eq_lookupText (lookup : PortLookup) (config : Config) (names : List String)
    (defaultPart : String) :
    lookup.declaration config names defaultPart =
      Overload.lookupText config lookup.name (lookup.returnType ·)
        (Overload.table names defaultPart) ++ "\n" := by
  rw [PortLookup.declaration, overloads_eq_map_written, Overload.lookupText, typed]
  simp only [String.append_assoc]

/-- Both lookups are written by one table. -/
theorem portGlobals_eq (config : Config) (names : List String) (defaultPart : String) :
    portGlobals config names defaultPart =
      Overload.lookupsText config (Overload.table names defaultPart) ++ "\n" := by
  have both : portGlobals config names defaultPart =
      PortLookup.single.declaration config names defaultPart ++
        PortLookup.many.declaration config names defaultPart := by
    apply String.toList_injective
    simp [portGlobals, PortLookup.all]
  rw [both, declaration_eq_lookupText, declaration_eq_lookupText, ← String.append_assoc]
  rfl

end Luau

/-! ## Rows and declarations -/

/-- The rows of a table match the generated declarations one to one; these are the declarations of
some parts. -/
structure Generated.Matches (generated : Generated) (config : Config) (parts : List Part)
    (rows : List Luau.Overload) : Prop where
  /-- Each part has one declaration, which declares a type of its name. -/
  declarations : generated.declarations.entries = parts.map fun part =>
    (part.name, Luau.typeText config part.name (Luau.members config part))
  /-- Whatever a row returns is declared by exactly one declaration. -/
  declared : ∀ row ∈ rows, ∃ part ∈ parts, part.name = row.part ∧
    generated.declarations.entries.filter (·.1 == row.part) =
      [(row.part, Luau.typeText config row.part (Luau.members config part))]
  /-- No two rows are selected alike. -/
  distinct : (rows.map Luau.Overload.tag).Nodup
  /-- Every declared part is returned for exactly one tag. -/
  reachable : ∀ part ∈ parts, rows.filter (fun row => row.tag.isSome && row.part == part.name) =
    [⟨some part.name, part.name⟩]

/-- The port lookups that are written for a mapping, and the table behind them. -/
structure Generated.LookupsFollow (generated : Generated) (all : Descriptors) (config : Config)
    (defaultPart : String) (rows : List Luau.Overload) : Prop where
  /-- The names are those of the mapping, in its order. -/
  names : generated.partNames = all.keys
  distinct : generated.partNames.Nodup
  /-- The default part is the one that is flagged. -/
  flagged : ∀ name, all.Flagged name ↔ name = defaultPart
  tabulates : Luau.Tabulates generated.partNames defaultPart rows
  single : Luau.PortLookup.single.overloads config generated.partNames defaultPart =
    rows.map (Luau.Overload.written config fun part => part)
  many : Luau.PortLookup.many.overloads config generated.partNames defaultPart =
    rows.map (Luau.Overload.written config fun part => "\x7b" ++ part ++ "\x7d")
  globals : Luau.portGlobals config generated.partNames defaultPart =
    Luau.Overload.lookupsText config rows ++ "\n"

/-- Full definitions that show the generated declarations, and at their end both lookups with the
given rows.  Each block is collapsed by itself. -/
structure Sources.Shows (sources : Sources) (config : Config) (generated : Generated)
    (defaultPart : String) (rows : List Luau.Overload) (text : String) : Prop where
  whole : text = String.ofList
    (Text.unlines ((sources.blocks config generated defaultPart).filter (· ≠ [])))
  blocks : sources.blocks config generated defaultPart =
    [Text.collapse (Text.trim sources.types.toList),
      partTypesHeader.toList,
      Text.collapse ("\n".intercalate (generated.declarations.entries.map Prod.snd)).toList,
      Text.collapse (Text.trim sources.globals.toList),
      portGlobalsHeader.toList,
      Text.collapse (Luau.Overload.lookupsText config rows).toList]
  /-- Neither the block of the declarations nor that of the lookups is left out. -/
  present : Text.collapse
      ("\n".intercalate (generated.declarations.entries.map Prod.snd)).toList ≠ [] ∧
    Text.collapse (Luau.Overload.lookupsText config rows).toList ≠ []

/-- Definitions whose blocks are below each other show what their lookups follow. -/
theorem Generated.LookupsFollow.shows {generated : Generated} {all : Descriptors} {config : Config}
    {defaultPart : String} {rows : List Luau.Overload}
    (follows : generated.LookupsFollow all config defaultPart rows)
    (present : generated.render.toList ≠ []) (sources : Sources) :
    sources.Shows config generated defaultPart rows (String.ofList
      (Text.unlines ((sources.blocks config generated defaultPart).filter (· ≠ [])))) where
  whole := rfl
  blocks := by
    have lookups : (Luau.portGlobals config generated.partNames defaultPart).toList.dropLast =
        (Luau.Overload.lookupsText config rows).toList := by
      rw [follows.globals, String.toList_append]
      exact List.dropLast_concat
    rw [Sources.blocks, lookups]
    rfl
  present := by
    refine ⟨mt Text.collapse_eq_nil_iff.1 present, mt Text.collapse_eq_nil_iff.1 ?_⟩
    exact Luau.Overload.lookupsText_ne_nil config rows

theorem Resolution.partNames_declare (resolution : Resolution) (config : Config) :
    (resolution.declare config).partNames = resolution.parts.keys :=
  OrderedMap.keys_map _ _

/-- In a resolution that has the closed form, every part bears the name under which it is listed. -/
theorem Resolution.ClosedForm.named {all : Descriptors} {resolution : Resolution}
    (closed : resolution.ClosedForm all) {name : String} {part : Part}
    (listed : (name, part) ∈ resolution.parts.entries) : part.name = name := by
  have found : resolution.parts.get? name = some part := OrderedMap.get?_eq_some_iff.2 listed
  have declared : name ∈ all.keys := closed.keys ▸ OrderedMap.mem_keys_of_get? found
  obtain ⟨line, lineage⟩ := closed.lineage name declared
  obtain ⟨other, found', collects⟩ := closed.collects name line lineage
  obtain rfl := Option.some.inj (found.symm.trans found')
  exact collects.named

theorem Resolution.ClosedForm.entries_declarations {all : Descriptors} {resolution : Resolution}
    (closed : resolution.ClosedForm all) (config : Config) :
    (resolution.declare config).declarations.entries = resolution.parts.values.map fun part =>
      (part.name, Luau.typeText config part.name (Luau.members config part)) := by
  rw [OrderedMap.values, List.map_map]
  refine List.map_congr_left fun entry listed => ?_
  exact Prod.ext (closed.named listed).symm (Luau.declaration_eq config entry.2)

/-- Every name of the mapping is declared by exactly one declaration. -/
theorem Resolution.ClosedForm.exists_declared {all : Descriptors} {resolution : Resolution}
    (closed : resolution.ClosedForm all) (config : Config) {name : String}
    (listed : name ∈ all.keys) : ∃ part ∈ resolution.parts.values, part.name = name ∧
      (resolution.declare config).declarations.entries.filter (·.1 == name) =
        [(name, Luau.typeText config name (Luau.members config part))] := by
  rw [← closed.keys] at listed
  obtain ⟨part, found⟩ := OrderedMap.exists_get?_of_mem_keys listed
  have member := OrderedMap.get?_eq_some_iff.1 found
  obtain rfl := closed.named member
  refine ⟨part, List.mem_map_of_mem member, rfl, OrderedMap.filter_entries_of_get? ?_⟩
  rw [declare, OrderedMap.get?_map, found, Option.map_some, Luau.declaration_eq]

theorem Resolution.ClosedForm.matches_table {all : Descriptors} {resolution : Resolution}
    {defaultPart : String} (closed : resolution.ClosedForm all) (listed : defaultPart ∈ all.keys)
    (config : Config) : (resolution.declare config).Matches config resolution.parts.values
      (Luau.Overload.table all.keys defaultPart) where
  declarations := closed.entries_declarations config
  declared := by
    intro row member
    rcases List.mem_append.1 member with member | member
    · obtain ⟨name, declared, rfl⟩ := List.mem_map.1 member
      exact closed.exists_declared config declared
    · obtain rfl := List.mem_singleton.1 member
      exact closed.exists_declared config listed
  distinct := Luau.nodup_tag_table all.nodup_keys defaultPart
  reachable := by
    intro part member
    obtain ⟨⟨name, _⟩, listed, rfl⟩ := List.mem_map.1 member
    have found := OrderedMap.mem_keys_of_get? (OrderedMap.get?_eq_some_iff.2 listed)
    obtain rfl := closed.named listed
    exact Luau.filter_table_eq all.nodup_keys (closed.keys ▸ found) defaultPart

theorem Resolution.ClosedForm.lookupsFollow {all : Descriptors} {resolution : Resolution}
    {defaultPart : String} (closed : resolution.ClosedForm all)
    (flagged : resolution.defaultPart = some defaultPart) (config : Config) :
    (resolution.declare config).LookupsFollow all config defaultPart
      (Luau.Overload.table all.keys defaultPart) := by
  have names : (resolution.declare config).partNames = all.keys :=
    (resolution.partNames_declare config).trans closed.keys
  constructor
  case names => exact names
  case distinct => exact names ▸ all.nodup_keys
  case flagged =>
    intro name
    rw [← closed.default_iff, flagged, Option.some.injEq, eq_comm]
  case tabulates => exact names ▸ Luau.tabulates_table all.keys defaultPart
  case single => exact names ▸ Luau.overloads_eq_map_written .single config all.keys defaultPart
  case many => exact names ▸ Luau.overloads_eq_map_written .many config all.keys defaultPart
  case globals => exact names ▸ Luau.portGlobals_eq config all.keys defaultPart

/-- In the full definitions of a project with a default part, the lookups and the declarations match
one to one. -/
theorem Sources.lookups_match {sources : Sources} {resolution : Resolution} {defaultPart : String}
    (success : sources.parts.resolve = .ok resolution)
    (flagged : resolution.defaultPart = some defaultPart) (config : Config) :
    ∃ generated rows text, sources.parts.generate config = .ok generated ∧
      sources.assemble config = .ok text ∧
      sources.Shows config generated defaultPart rows text ∧
      generated.LookupsFollow sources.parts config defaultPart rows ∧
      generated.Matches config resolution.parts.values rows := by
  have closed : resolution.ClosedForm sources.parts := by
    obtain ⟨state, sound, complete, rfl⟩ := Descriptors.exists_sound_of_resolve_eq_ok success
    exact sound.closedForm complete
  have listed : defaultPart ∈ sources.parts.keys :=
    ((closed.default_iff defaultPart).1 flagged).mem_keys
  have generated : sources.parts.generate config = .ok (resolution.declare config) := by
    rw [Descriptors.generate_eq, success]
    rfl
  have present := Descriptors.entries_ne_nil_of_default success flagged
  have follows := closed.lookupsFollow flagged config
  have shown := follows.shows (resolution.solid_render config present).nonempty sources
  exact ⟨_, _, _, generated, assemble_eq_of_declared success flagged present config, shown,
    follows, closed.matches_table listed config⟩

theorem Sources.lampProject_lookups_match :
    lampProject.parts.resolve = .ok .lampFamily ∧
      Resolution.lampFamily.defaultPart = some "Base" ∧
      ∃ generated rows text, lampProject.parts.generate {} = .ok generated ∧
        lampProject.assemble {} = .ok text ∧
        lampProject.Shows {} generated "Base" rows text ∧
        generated.LookupsFollow lampProject.parts {} "Base" rows ∧
        generated.Matches {} Resolution.lampFamily.parts.values rows := by
  have success : lampProject.parts.resolve = .ok .lampFamily := by decide +kernel
  exact ⟨success, rfl, lookups_match success rfl {}⟩

end PartDefs
