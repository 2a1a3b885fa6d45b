import PartDefs.Assembly
import PartDefs.Proofs.Luau.Readability

/-!
# Files of declarations can be read back

The text of a file falls into lines at its newlines, and the lines fall into declarations at the
closing braces that stand alone.  So a file of part types tells which parts it declares, however
they came by their members.
-/

namespace PartDefs
namespace Luau

variable {part : Part}

/-! ## Where lines and declarations end -/

theorem notMem_methodLines (plain : part.Plain) : ∀ line ∈ methodLines {} part, '\n' ∉ line := by
  intro line listed
  obtain ⟨⟨name, method⟩, inside, rfl⟩ := List.mem_map.1 listed
  obtain ⟨named, shape⟩ := plain.methods _ inside
  have outside : '\n' ∉ name.toList := named '\n' (by decide)
  have params : '\n' ∉ (", ".intercalate
      (selfParam part :: methodParams {} part method.kind)).toList :=
    notMem_toList_intercalate (by decide) (notMem_methodParams plain shape (Or.inr rfl))
  have returns : '\n' ∉ (method.returns.getD "()").toList := by
    cases declared : method.returns with
    | none => decide
    | some type => exact shape.returns type declared '\n' (by decide)
  simpa [memberLine, methodMember, typed, signature, outside, returns] using params

theorem notMem_propertyLines (plain : part.Plain) :
    ∀ line ∈ propertyLines {} part, '\n' ∉ line := by
  intro line listed
  obtain ⟨⟨name, type⟩, inside, rfl⟩ := List.mem_map.1 listed
  obtain ⟨named, typed⟩ := plain.properties _ inside
  have outside : '\n' ∉ name.toList := named '\n' (by decide)
  have outside' : '\n' ∉ type.toList := typed '\n' (by decide)
  simp [memberLine, Luau.typed, outside, outside']

theorem notMem_connectLines {overloads : List String}
    (outside : ∀ text ∈ overloads, '\n' ∉ text.toList) :
    ∀ line ∈ connectLines {} overloads, '\n' ∉ line := by
  have labels : ∀ label ∈ ["Connect: ", ({} : Config).indent ++ "& "], '\n' ∉ label.toList := by
    decide
  intro line listed
  rcases eq_or_exists_of_mem_connectLines listed with rfl | ⟨label, known, text, member, rfl⟩
  · decide
  · simp [labels label known, outside text member]

theorem notMem_eventLines (plain : part.Plain) : ∀ line ∈ eventLines {} part, '\n' ∉ line := by
  refine notMem_connectLines fun text written => ?_
  obtain ⟨⟨event, params⟩, inside, rfl⟩ := List.mem_map.1 written
  obtain ⟨named, typed⟩ := plain.events _ inside
  have outside : '\n' ∉ event.toList := named '\n' (by decide)
  have self : '\n' ∉ part.name.toList := plain.name '\n' (by decide)
  have callback : '\n' ∉ (", ".intercalate (params.map param)).toList :=
    notMem_toList_intercalate (by decide) (notMem_map_param typed (by decide) (by decide))
  rw [connectOverload_eq]
  simpa [selfParam, Luau.typed, signature, outside, self] using callback

theorem notMem_openLines (plain : part.Plain) : ∀ line ∈ openLines {} part, '\n' ∉ line := by
  have self : '\n' ∉ part.name.toList := plain.name '\n' (by decide)
  refine List.forall_mem_cons.2 ⟨by simp [self], fun line listed => ?_⟩
  rcases List.mem_append.1 listed with listed | listed
  · exact notMem_methodLines plain line listed
  rcases List.mem_append.1 listed with listed | listed
  · exact notMem_propertyLines plain line listed
  · exact notMem_eventLines plain line listed

theorem exists_indented_of_mem_memberLines {config : Config} {line : List Char}
    (listed : line ∈ memberLines config part) : ∃ text, line = config.indent.toList ++ text := by
  have indented (member : String) :
      ∃ text, memberLine config member = config.indent.toList ++ text :=
    ⟨_, by rw [memberLine, String.append_assoc, String.toList_append]⟩
  rcases List.mem_append.1 listed with listed | listed
  · obtain ⟨method, -, rfl⟩ := List.mem_map.1 listed
    exact indented _
  rcases List.mem_append.1 listed with listed | listed
  · obtain ⟨property, -, rfl⟩ := List.mem_map.1 listed
    exact indented _
  · rcases eq_or_exists_of_mem_connectLines listed with rfl | ⟨label, -, text, -, rfl⟩
    · exact ⟨_, by rw [String.toList_append]⟩
    · exact ⟨_, by rw [String.toList_append]⟩

/-- A closing brace is not indented, so it ends a declaration. -/
theorem closingLine_notMem_openLines (part : Part) : closingLine ∉ openLines {} part := by
  intro listed
  rcases List.mem_cons.1 listed with header | listed
  · simp [closingLine] at header
  · obtain ⟨text, split⟩ := exists_indented_of_mem_memberLines listed
    simp [closingLine] at split

/-! ## Files -/

theorem lines_inj {parts parts' : List Part} (plain : ∀ part ∈ parts, part.Plain)
    (plain' : ∀ part ∈ parts', part.Plain)
    (same : parts.flatMap (fun part => openLines {} part ++ [closingLine]) =
      parts'.flatMap fun part => openLines {} part ++ [closingLine]) : parts = parts' := by
  have outside (parts : List Part) : ∀ lines ∈ parts.map (openLines {}), closingLine ∉ lines := by
    intro lines listed
    obtain ⟨part, -, rfl⟩ := List.mem_map.1 listed
    exact closingLine_notMem_openLines part
  have cut : (parts.map (openLines {})).flatMap (· ++ [closingLine]) =
      (parts'.map (openLines {})).flatMap (· ++ [closingLine]) := by
    simpa only [List.flatMap_map] using same
  exact eq_of_map_eq_map (fun part listed part' listed' equal =>
    openLines_inj (plain part listed) (plain' part' listed') equal)
    (flatMap_concat_inj (outside parts) (outside parts') cut)

theorem notMem_lines {parts : List Part} (plain : ∀ part ∈ parts, part.Plain) :
    ∀ line ∈ parts.flatMap fun part => openLines {} part ++ [closingLine], '\n' ∉ line := by
  intro line listed
  obtain ⟨part, inside, listed⟩ := List.mem_flatMap.1 listed
  rcases List.mem_append.1 listed with listed | listed
  · exact notMem_openLines (plain part inside) line listed
  · obtain rfl := List.mem_singleton.1 listed
    decide

theorem declarations_ne_empty {parts : List Part} (present : parts ≠ []) :
    "\n".intercalate (parts.map (declaration {})) ≠ "" := by
  intro empty
  have lines := toList_declarations {} present
  rw [empty] at lines
  cases parts with
  | nil => exact present rfl
  | cons part parts => simp [openLines] at lines

/-- Plain parts can be read back from their declarations. -/
theorem declarations_inj {parts parts' : List Part} (plain : ∀ part ∈ parts, part.Plain)
    (plain' : ∀ part ∈ parts', part.Plain)
    (same : "\n".intercalate (parts.map (declaration {})) =
      "\n".intercalate (parts'.map (declaration {}))) : parts = parts' := by
  by_cases present : parts = []
  · by_cases present' : parts' = []
    · rw [present, present']
    · exact absurd (same.symm.trans (by simp [present])) (declarations_ne_empty present')
  · by_cases present' : parts' = []
    · exact absurd (same.trans (by simp [present'])) (declarations_ne_empty present)
    · have lines := congrArg (String.toList · ++ ['\n']) same
      simp only [toList_declarations {} present, toList_declarations {} present'] at lines
      exact lines_inj plain plain'
        (flatMap_concat_inj (notMem_lines plain) (notMem_lines plain') lines)

end Luau

/-- Two plain mappings with the same file of part types have the same parts. -/
theorem Descriptors.parts_eq_of_standalone_eq {first second : Descriptors} {one other : Resolution}
    (plain : first.Plain) (plain' : second.Plain) (success : first.resolve = .ok one)
    (success' : second.resolve = .ok other) (same : first.standalone {} = second.standalone {}) :
    one.parts = other.parts := by
  have named := plain.parts success
  have named' := plain'.parts success'
  rw [standalone_eq, standalone_eq, generate_eq, generate_eq, success, success'] at same
  have texts : (one.declare {}).render = (other.declare {}).render :=
    (String.append_right_inj _).1 (Except.ok.inj same)
  rw [Resolution.render_declare, Resolution.render_declare] at texts
  have values : one.parts.values = other.parts.values := by
    refine Luau.declarations_inj ?_ ?_ texts
    · intro part listed
      obtain ⟨entry, member, rfl⟩ := List.mem_map.1 listed
      exact (named entry member).2
    · intro part listed
      obtain ⟨entry, member, rfl⟩ := List.mem_map.1 listed
      exact (named' entry member).2
  -- A part is listed under its own name.
  refine OrderedMap.ext (eq_of_map_eq_map (fun entry member entry' member' equal => ?_) values)
  refine Prod.ext ?_ equal
  rw [← (named entry member).1, ← (named' entry' member').1, equal]

/-- The lamp family without inheritance: every part declares all its members, and none is the
default. -/
def Descriptors.flatLamps : Descriptors := .ofList
  [("Lamp",
    { methods := .ofList
        [("Switch", { arguments := [.ofList [("on", "boolean")]] }), ("Configure", {})]
      properties := .ofList [("Power", "number"), ("Name", "string")]
      events := .ofList [("Ready", [])] }),
    ("Base",
      { properties := .ofList [("Name", "string"), ("Power", "string")]
        events := .ofList [("Ready", [])] }),
    ("Device",
      { methods := .ofList [("Configure", {}), ("Switch", { returns := some "boolean" })]
        properties := .ofList [("Name", "string"), ("Power", "string")]
        events := .ofList [("Ready", [])] })]

theorem Descriptors.lampFamily_parts_eq_flatLamps :
    lampFamily.Plain ∧ flatLamps.Plain ∧ lampFamily.standalone {} = flatLamps.standalone {} ∧
      ∃ other, flatLamps.resolve = .ok other ∧ Resolution.lampFamily.parts = other.parts := by
  have plain : lampFamily.Plain := by decide +kernel
  have plain' : flatLamps.Plain := by decide +kernel
  have success : lampFamily.resolve = .ok .lampFamily := by decide +kernel
  have success' : flatLamps.resolve = .ok { Resolution.lampFamily with defaultPart := none } := by
    decide +kernel
  have same : lampFamily.standalone {} = flatLamps.standalone {} := by
    simp only [standalone_eq, generate_eq, success, success']
    rfl
  exact ⟨plain, plain', same, _, success',
    parts_eq_of_standalone_eq plain plain' success success' same⟩

end PartDefs
