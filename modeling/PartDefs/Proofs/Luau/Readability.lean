import PartDefs.Proofs.Luau.Lines
import PartDefs.Proofs.Luau.Plain

/-!
# Declarations can be read back

As long as names and types are plain, the lines of a declaration determine the part.  The kind of a
line shows by how it ends and whether it has a parenthesis, and each line is cut at the first
occurrence of a mark.
-/

namespace PartDefs
namespace Luau

variable {α : Type} {mark : Char} {part part' : Part}

/-! ## Parameters -/

theorem typed_inj {name name' type type' : String} (plain : Plain name) (plain' : Plain name')
    (same : typed name type = typed name' type') : name = name' ∧ type = type' := by
  have outside : ':' ∉ name.toList := plain ':' (by decide)
  have outside' : ':' ∉ name'.toList := plain' ':' (by decide)
  rw [typed, typed, String.append_assoc, String.append_assoc] at same
  exact Text.append_inj_of_notMem rfl outside outside' same

theorem typed_ne_empty (name type : String) : (typed name type).toList ≠ [] := by
  simp [typed]

theorem notMem_typed {name type : String} (outside : mark ∉ name.toList)
    (outside' : mark ∉ type.toList) (other : mark ≠ ':') (other' : mark ≠ ' ') :
    mark ∉ (typed name type).toList := by
  simp [typed, outside, outside', other, other']

/-- What stands between a pair of parentheses is told from what follows. -/
theorem signature_inj {params params' : List String} {back back' : String}
    (outside : ∀ text ∈ params, ')' ∉ text.toList) (outside' : ∀ text ∈ params', ')' ∉ text.toList)
    (same : signature params ++ back = signature params' ++ back') :
    ", ".intercalate params = ", ".intercalate params' ∧ back = back' := by
  have free : ')' ∉ (", ".intercalate params).toList :=
    notMem_toList_intercalate (by decide) outside
  have free' : ')' ∉ (", ".intercalate params').toList :=
    notMem_toList_intercalate (by decide) outside'
  simp only [signature, String.append_assoc] at same
  exact Text.append_inj_of_notMem rfl free free' ((String.append_right_inj "(").1 same)

/-- Parameters without commas are told apart. -/
theorem params_inj {params params' : List String}
    (apart : ∀ text ∈ params, ',' ∉ text.toList ∧ text.toList ≠ [])
    (apart' : ∀ text ∈ params', ',' ∉ text.toList ∧ text.toList ≠ [])
    (same : ", ".intercalate params = ", ".intercalate params') : params = params' := by
  have cut : (',' :: [' ']).intercalate (params.map String.toList) =
      (',' :: [' ']).intercalate (params'.map String.toList) := by
    simpa using congrArg String.toList same
  have texts : params.map String.toList = params'.map String.toList := by
    refine intercalate_inj ?_ ?_ cut
    · simpa using apart
    · simpa using apart'
  exact eq_of_map_eq_map (fun _ _ _ _ => String.toList_inj.1) texts

theorem param_inj {p q : Param} (plain : p.Plain) (plain' : q.Plain) (same : param p = param q) :
    p = q := by
  obtain ⟨name, type⟩ := typed_inj plain.1 plain'.1 same
  cases p
  cases q
  simp_all

theorem map_param_inj {params params' : List Param} (plain : ∀ p ∈ params, p.Plain)
    (plain' : ∀ p ∈ params', p.Plain) (same : params.map param = params'.map param) :
    params = params' :=
  eq_of_map_eq_map (fun _ listed _ listed' => param_inj (plain _ listed) (plain' _ listed')) same

theorem notMem_map_param {params : List Param} (plain : ∀ p ∈ params, p.Plain)
    (listed : mark ∈ marks) (other : mark ≠ ':') :
    ∀ text ∈ params.map param, mark ∉ text.toList := by
  have solid : mark ≠ ' ' := by
    rintro rfl
    exact absurd listed (by decide)
  intro text member
  obtain ⟨p, inside, rfl⟩ := List.mem_map.1 member
  exact notMem_typed ((plain p inside).1 mark listed) ((plain p inside).2 mark listed) other solid

theorem map_param_apart {params : List Param} (plain : ∀ p ∈ params, p.Plain) :
    ∀ text ∈ params.map param, ',' ∉ text.toList ∧ text.toList ≠ [] := by
  intro text member
  refine ⟨notMem_map_param plain (by decide) (by decide) text member, ?_⟩
  obtain ⟨p, -, rfl⟩ := List.mem_map.1 member
  exact typed_ne_empty p.name p.type

/-! ## Methods -/

/-- A mark that can neither end a signature nor a line before its time. -/
theorem notMem_methodParams {name : String} {method : Method} (plain : part.Plain)
    (shape : method.Plain name) (either : mark = ')' ∨ mark = '\n') :
    ∀ text ∈ selfParam part :: methodParams {} part method.kind, mark ∉ text.toList := by
  have listed : mark ∈ marks := by rcases either with rfl | rfl <;> decide
  have others : mark ≠ ':' ∧ mark ≠ ',' ∧ mark ≠ '?' ∧ mark ≠ ' ' ∧ mark ≠ '\x7b' ∧
      mark ≠ '\x7d' := by
    rcases either with rfl | rfl <;> decide
  obtain ⟨colon, comma, question, space, opening, closing⟩ := others
  have words : mark ∉ "self".toList ∧ mark ∉ "properties".toList := by
    rcases either with rfl | rfl <;> decide
  intro text member
  rcases List.mem_cons.1 member with rfl | member
  · exact notMem_typed words.1 (plain.name mark listed) colon space
  · cases declared : method.kind with
    | configure =>
        rw [declared, methodParams, List.mem_singleton] at member
        subst member
        refine notMem_typed words.2 ?_ colon space
        have fields : mark ∉ (", ".intercalate ((part.properties.entries.filter fun property =>
            !({} : Config).isReadonly property.1).map fun property =>
              typed property.1 property.2 ++ "?")).toList := by
          refine notMem_toList_intercalate (by simp [comma, space]) fun field inside => ?_
          obtain ⟨property, chosen, rfl⟩ := List.mem_map.1 inside
          obtain ⟨named, typed⟩ := plain.properties property (List.mem_filter.1 chosen).1
          simpa [question] using notMem_typed (named mark listed) (typed mark listed) colon space
        simpa [configureRecord, braced, opening, closing] using fields
    | call params =>
        rw [declared, methodParams] at member
        exact notMem_map_param (shape.call params declared) listed colon text member

/-- A return type that is not declared is written with marks, so it is taken for no other. -/
theorem returns_inj {returns returns' : Option String} (plain : ∀ type ∈ returns, Plain type)
    (plain' : ∀ type ∈ returns', Plain type) (same : returns.getD "()" = returns'.getD "()") :
    returns = returns' := by
  have marked : ¬Plain "()" := by decide
  cases returns with
  | none =>
      cases returns' with
      | none => rfl
      | some type' =>
          have unit : "()" = type' := same
          exact absurd (unit ▸ plain' type' rfl) marked
  | some type =>
      cases returns' with
      | none =>
          have unit : type = "()" := same
          exact absurd (unit ▸ plain type rfl) marked
      | some type' => exact congrArg some same

theorem selfParam_apart (plain : Plain part.name) :
    ',' ∉ (selfParam part).toList ∧ (selfParam part).toList ≠ [] := by
  have outside : ',' ∉ part.name.toList := plain ',' (by decide)
  exact ⟨notMem_typed (by decide) outside (by decide) (by decide), typed_ne_empty _ _⟩

/-- The name tells whether a method is `Configure`; the parameters of the others are read back. -/
theorem kind_inj {name : String} {method method' : Method} (plain : part.Plain)
    (plain' : part'.Plain) (shape : method.Plain name) (shape' : method'.Plain name)
    (same : ", ".intercalate (selfParam part :: methodParams {} part method.kind) =
      ", ".intercalate (selfParam part' :: methodParams {} part' method'.kind)) :
    method.kind = method'.kind := by
  -- What `Configure` takes follows from the properties, so nothing has to be read back there.
  by_cases configure : name = configureName
  · rw [shape.configure.2 configure, shape'.configure.2 configure]
  · cases declared : method.kind with
    | configure => exact absurd (shape.configure.1 declared) configure
    | call params =>
        cases declared' : method'.kind with
        | configure => exact absurd (shape'.configure.1 declared') configure
        | call params' =>
            rw [declared, declared', methodParams, methodParams] at same
            have own := shape.call params declared
            have own' := shape'.call params' declared'
            have texts := params_inj
              (List.forall_mem_cons.2 ⟨selfParam_apart plain.name, map_param_apart own⟩)
              (List.forall_mem_cons.2 ⟨selfParam_apart plain'.name, map_param_apart own'⟩) same
            rw [map_param_inj own own' (List.cons.inj texts).2]

theorem methodMember_inj {entry entry' : String × Method} (plain : part.Plain)
    (plain' : part'.Plain) (member : entry ∈ part.methods.entries)
    (member' : entry' ∈ part'.methods.entries)
    (same : methodMember {} part entry.1 entry.2 = methodMember {} part' entry'.1 entry'.2) :
    entry = entry' := by
  obtain ⟨name, method⟩ := entry
  obtain ⟨name', method'⟩ := entry'
  obtain ⟨named, shape⟩ := plain.methods _ member
  obtain ⟨named', shape'⟩ := plain'.methods _ member'
  obtain ⟨rfl, behind⟩ := typed_inj named named' same
  rw [String.append_assoc, String.append_assoc] at behind
  obtain ⟨params, behind⟩ := signature_inj
    (notMem_methodParams plain shape (Or.inl rfl)) (notMem_methodParams plain' shape' (Or.inl rfl))
    behind
  have kind : method.kind = method'.kind := kind_inj plain plain' shape shape' params
  have returns : method.returns = method'.returns :=
    returns_inj shape.returns shape'.returns ((String.append_right_inj " -> ").1 behind)
  cases method
  cases method'
  simp_all

/-! ## Overloads -/

theorem connectOverload_eq (part : Part) (event : String) (params : List Param) :
    connectOverload {} part event params = ("((" ++ selfParam part ++ ", event: \"") ++
      (event ++ ("\", callback: " ++
        (signature (params.map param) ++ " -> ()) -> EventConnection)"))) := by
  rw [← String.toList_inj]
  simp [connectOverload, signature, typed]

theorem connectOverload_inj {entry entry' : String × List Param} (named : part.name = part'.name)
    (plain : Plain entry.1 ∧ ∀ p ∈ entry.2, p.Plain)
    (plain' : Plain entry'.1 ∧ ∀ p ∈ entry'.2, p.Plain)
    (same : connectOverload {} part entry.1 entry.2 =
      connectOverload {} part' entry'.1 entry'.2) : entry = entry' := by
  obtain ⟨event, params⟩ := entry
  obtain ⟨event', params'⟩ := entry'
  have outside : '"' ∉ event.toList := plain.1 '"' (by decide)
  have outside' : '"' ∉ event'.toList := plain'.1 '"' (by decide)
  rw [connectOverload_eq, connectOverload_eq, selfParam, selfParam, named,
    String.append_right_inj] at same
  obtain ⟨rfl, behind⟩ := Text.append_inj_of_notMem rfl outside outside' same
  obtain ⟨texts, -⟩ := signature_inj (notMem_map_param plain.2 (by decide) (by decide))
    (notMem_map_param plain'.2 (by decide) (by decide)) behind
  have params_eq : params = params' := map_param_inj plain.2 plain'.2
    (params_inj (map_param_apart plain.2) (map_param_apart plain'.2) texts)
  rw [params_eq]

/-- The first overload stands in the line of the name, where there is nothing else. -/
theorem connectLines_inj {overloads overloads' : List String} (config : Config)
    (present : ∀ text ∈ overloads, text ≠ "") (present' : ∀ text ∈ overloads', text ≠ "")
    (same : connectLines config overloads = connectLines config overloads') :
    overloads = overloads' := by
  cases overloads with
  | nil =>
      cases overloads' with
      | nil => rfl
      | cons first' later' =>
          have here' := present' first' List.mem_cons_self
          simp [connectLines, here'] at same
  | cons first later =>
      cases overloads' with
      | nil =>
          have here := present first List.mem_cons_self
          simp [connectLines, here] at same
      | cons first' later' =>
          obtain ⟨here, below⟩ := List.cons.inj same
          have first_eq : first = first' := (String.append_right_inj _).1 (String.toList_inj.1 here)
          have later_eq : later = later' := by
            refine eq_of_map_eq_map (fun text _ text' _ equal => ?_) below
            exact (String.append_right_inj _).1 (String.toList_inj.1 equal)
          rw [first_eq, later_eq]

/-! ## The kinds of lines -/

/-- What the lines of methods and properties have in common. -/
def endsInComma (line : List Char) : Bool :=
  decide (line.getLast? = some ',')

/-- What distinguishes the lines of methods from all others. -/
def isMethodLine (line : List Char) : Bool :=
  endsInComma line && decide ('(' ∈ line)

theorem memberLine_inj {config : Config} {member member' : String}
    (same : memberLine config member = memberLine config member') : member = member' := by
  have texts := String.toList_inj.1 same
  exact (String.append_right_inj _).1 ((String.append_left_inj _).1 texts)

theorem endsInComma_memberLine (config : Config) (member : String) :
    endsInComma (memberLine config member) = true := by
  simp [endsInComma, memberLine]

theorem isMethodLine_methodLines (config : Config) (part : Part) :
    ∀ line ∈ methodLines config part, isMethodLine line = true := by
  intro line listed
  obtain ⟨method, -, rfl⟩ := List.mem_map.1 listed
  have opened : '(' ∈ memberLine config (methodMember config part method.1 method.2) := by
    simp [memberLine, methodMember, typed, signature]
  simp [isMethodLine, endsInComma_memberLine, opened]

theorem endsInComma_propertyLines (config : Config) (part : Part) :
    ∀ line ∈ propertyLines config part, endsInComma line = true := by
  intro line listed
  obtain ⟨property, -, rfl⟩ := List.mem_map.1 listed
  exact endsInComma_memberLine config _

theorem isMethodLine_propertyLines (plain : part.Plain) :
    ∀ line ∈ propertyLines {} part, isMethodLine line = false := by
  intro line listed
  obtain ⟨property, inside, rfl⟩ := List.mem_map.1 listed
  obtain ⟨named, typed⟩ := plain.properties property inside
  have outside : '(' ∉ property.1.toList := named '(' (by decide)
  have outside' : '(' ∉ property.2.toList := typed '(' (by decide)
  simp [isMethodLine, memberLine, Luau.typed, outside, outside']

theorem getLast?_toList_append {front back : String} {last : Char}
    (closed : back.toList.getLast? = some last) : (front ++ back).toList.getLast? = some last := by
  rw [String.toList_append, List.getLast?_append, closed, Option.some_or]

theorem getLast?_connectLines {overloads : List String} (config : Config)
    (closed : ∀ text ∈ overloads, text.toList.getLast? = some ')') :
    ∀ line ∈ connectLines config overloads, line.getLast? ≠ some ',' := by
  intro line listed
  rcases eq_or_exists_of_mem_connectLines listed with rfl | ⟨label, -, text, member, rfl⟩
  · have spaced : "Connect: ".toList.getLast? = some ' ' := by decide
    rw [getLast?_toList_append spaced]
    decide
  · rw [getLast?_toList_append (getLast?_toList_append (closed text member))]
    decide

theorem endsInComma_eventLines (config : Config) (part : Part) :
    ∀ line ∈ eventLines config part, endsInComma line = false := by
  intro line listed
  have closed : line.getLast? ≠ some ',' := by
    refine getLast?_connectLines config (fun text written => ?_) line listed
    obtain ⟨event, -, rfl⟩ := List.mem_map.1 written
    exact getLast?_toList_append (by decide)
  simp [endsInComma, closed]

theorem isMethodLine_eventLines (config : Config) (part : Part) :
    ∀ line ∈ eventLines config part, isMethodLine line = false := by
  intro line listed
  rw [isMethodLine, endsInComma_eventLines config part line listed, Bool.false_and]

/-! ## Parts -/

theorem methodLines_inj (plain : part.Plain) (plain' : part'.Plain)
    (same : methodLines {} part = methodLines {} part') : part.methods = part'.methods :=
  OrderedMap.ext (eq_of_map_eq_map (fun _ listed _ listed' equal =>
    methodMember_inj plain plain' listed listed' (memberLine_inj equal)) same)

theorem propertyLines_inj (plain : part.Plain) (plain' : part'.Plain)
    (same : propertyLines {} part = propertyLines {} part') :
    part.properties = part'.properties := by
  refine OrderedMap.ext (eq_of_map_eq_map (fun property listed property' listed' equal => ?_) same)
  obtain ⟨name, type⟩ := typed_inj (plain.properties property listed).1
    (plain'.properties property' listed').1 (memberLine_inj equal)
  exact Prod.ext name type

theorem eventLines_inj (named : part.name = part'.name) (plain : part.Plain)
    (plain' : part'.Plain) (same : eventLines {} part = eventLines {} part') :
    part.events = part'.events := by
  have present (part : Part) : ∀ text ∈ part.events.entries.map (fun event =>
      connectOverload {} part event.1 event.2), text ≠ "" := by
    intro text written
    obtain ⟨event, -, rfl⟩ := List.mem_map.1 written
    rw [connectOverload_eq]
    simp
  have overloads := connectLines_inj {} (present part) (present part') same
  exact OrderedMap.ext (eq_of_map_eq_map (fun event listed event' listed' equal =>
    connectOverload_inj named (plain.events event listed) (plain'.events event' listed') equal)
    overloads)

theorem memberLines_inj (named : part.name = part'.name) (plain : part.Plain)
    (plain' : part'.Plain) (same : memberLines {} part = memberLines {} part') : part = part' := by
  have others {part : Part} (plain : part.Plain) :
      ∀ line ∈ propertyLines {} part ++ eventLines {} part, isMethodLine line = false := by
    intro line listed
    rcases List.mem_append.1 listed with listed | listed
    · exact isMethodLine_propertyLines plain line listed
    · exact isMethodLine_eventLines {} part line listed
  -- The lines of methods come first, and behind them those of properties are told by the comma.
  obtain ⟨methods, behind⟩ := append_inj_of_forall (isMethodLine_methodLines {} part)
    (isMethodLine_methodLines {} part') (others plain) (others plain') same
  obtain ⟨properties, events⟩ := append_inj_of_forall (endsInComma_propertyLines {} part)
    (endsInComma_propertyLines {} part') (endsInComma_eventLines {} part)
    (endsInComma_eventLines {} part') behind
  have methods_eq : part.methods = part'.methods := methodLines_inj plain plain' methods
  have properties_eq : part.properties = part'.properties :=
    propertyLines_inj plain plain' properties
  have events_eq : part.events = part'.events := eventLines_inj named plain plain' events
  cases part
  cases part'
  simp_all

theorem openLines_inj (plain : part.Plain) (plain' : part'.Plain)
    (same : openLines {} part = openLines {} part') : part = part' := by
  obtain ⟨header, members⟩ := List.cons.inj same
  have named : part.name = part'.name := by
    have texts := (String.append_left_inj _).1 (String.toList_inj.1 header)
    exact (String.append_right_inj _).1 texts
  exact memberLines_inj named plain plain' members

end Luau
end PartDefs
