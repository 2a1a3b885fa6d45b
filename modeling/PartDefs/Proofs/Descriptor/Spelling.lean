import PartDefs.Proofs.Descriptor.Meaning
import PartDefs.Proofs.Json.Kinds

/-!
# Spellings of descriptors

A text spells descriptors when it lists the entries of every map in order and gives every field of
a part or a method once, or leaves it out if it is empty.  Fields may stand in any order, with any
unknown members between them, and space and escapes are free.  Every such text is read as the
descriptors it spells.
-/

namespace PartDefs

open Json

variable {σ α ρ : Type}

/-! ## Listings -/

/-- Among members, a field is given once, or it is missing and holds what it holds initially. -/
inductive ListsField (tells : Value σ → α → Prop) (name : String) (initial : α)
    (members : List (String × Value σ)) : α → Prop where
  | missing : members.filter (·.1 = name) = [] → ListsField tells name initial members initial
  | given {value : Value σ} {content : α} :
      members.filter (·.1 = name) = [(name, value)] → tells value content →
      ListsField tells name initial members content

theorem lookup_eq_head?_filter (name : String) (members : List (String × α)) :
    OrderedMap.lookup name members = (members.filter (·.1 = name)).head?.map Prod.snd := by
  induction members with
  | nil => rfl
  | cons member members ih =>
      obtain ⟨other, value⟩ := member
      by_cases same : other = name <;> simp [OrderedMap.lookup, same, ih]

namespace ListsField

variable {tells : Value σ → α → Prop} {meaning : Value σ → Option α} {name : String}
  {initial content : α} {members : List (String × Value σ)}

theorem count_le_one (listed : ListsField tells name initial members content) :
    (members.map Prod.fst).count name ≤ 1 := by
  have counted : (members.map Prod.fst).count name = (members.filter (·.1 = name)).length := by
    rw [List.count, List.countP_map, List.countP_eq_length_filter]
    rfl
  rw [counted]
  cases listed with
  | missing absent => simp [absent]
  | given once _ => simp [once]

/-- The members of a field that is listed mean something. -/
theorem accepts (listed : ListsField tells name initial members content)
    (complete : Complete meaning tells) {member : String × Value σ} (present : member ∈ members)
    (same : member.1 = name) : Accepts meaning member.2 := by
  have chosen : member ∈ members.filter (·.1 = name) :=
    List.mem_filter.2 ⟨present, decide_eq_true same⟩
  cases listed with
  | missing absent =>
      rw [absent] at chosen
      cases chosen
  | given once told =>
      rw [once, List.mem_singleton] at chosen
      rw [chosen]
      exact Option.isSome_of_eq_some (complete told)

theorem held (listed : ListsField tells name initial members content)
    (complete : Complete meaning tells) :
    (OrderedMap.lookup name members).elim (some initial) meaning = some content := by
  rw [lookup_eq_head?_filter]
  cases listed with
  | missing absent =>
      rw [absent]
      rfl
  | given once told =>
      rw [once]
      exact complete told

variable {fields : List (FieldMeaning σ ρ)} {get : ρ → α}

theorem allows (listed : ListsField tells name initial members content)
    (complete : Complete meaning tells) (shows : Shows fields name meaning get) (empty : ρ) :
    ∀ field ∈ fields, field.name = name → field.Allows [] members := by
  intro field known own
  rw [FieldMeaning.Allows, own, List.nil_append]
  refine ⟨listed.count_le_one, fun member present same => ?_⟩
  have meant := listed.accepts complete present same
  rwa [Accepts, shows.own field known own member.2 empty, Option.isSome_map] at meant

theorem get_eq [Lettered σ] (listed : ListsField tells name initial members content)
    (complete : Complete meaning tells) (shows : Shows fields name meaning get)
    (known : name ∈ fields.map (·.name)) {empty result : ρ}
    (read : Value.namedFields? fields [] empty (named members) = some result)
    (start : get empty = initial) : get result = content := by
  have shown := shows.namedFields? known listed.count_le_one read
  rw [start, listed.held complete] at shown
  exact (Option.some.inj shown).symm

end ListsField

variable [Lettered σ]

/-- An object that lists the entries of a map in order. -/
inductive ListsMap (tells : Value σ → α → Prop) : Value σ → OrderedMap String α → Prop where
  | object {members : List (String × Value σ)} {kept : OrderedMap String α} :
      List.Forall₂ (fun member entry => member.1 = entry.1 ∧ tells member.2 entry.2)
        members kept.entries →
      ListsMap tells (.object (named members)) kept

/-- A value that lists a parameter entry. -/
def Entry.Lists : Value σ → Entry → Prop :=
  ListsMap TellsText

/-- An object that gives the fields of a method, among any other members. -/
inductive MethodDescriptor.Lists : Value σ → MethodDescriptor → Prop where
  | object {members : List (String × Value σ)} {method : MethodDescriptor} :
      ListsField (TellsOption TellsText) "returns" none members method.returns →
      ListsField (TellsList Entry.Lists) "arguments" [] members method.arguments →
      Lists (.object (named members)) method

/-- An object that gives the fields of a part, among any other members. -/
inductive PartDescriptor.Lists : Value σ → PartDescriptor → Prop where
  | object {members : List (String × Value σ)} {part : PartDescriptor} :
      ListsField (TellsOption TellsText) "extends" none members part.parent →
      ListsField TellsFlag "default" false members part.isDefault →
      ListsField (ListsMap MethodDescriptor.Lists) "methods" ∅ members part.methods →
      ListsField (ListsMap TellsText) "properties" ∅ members part.properties →
      ListsField (ListsMap (TellsList Entry.Lists)) "events" ∅ members part.events →
      Lists (.object (named members)) part

/-- A value that lists the parts of a descriptor file. -/
def Descriptors.Lists : Value σ → Descriptors → Prop :=
  ListsMap PartDescriptor.Lists

/-! ## What is listed is meant -/

theorem complete_map? {meaning : Value σ → Option α} {tells : Value σ → α → Prop}
    (complete : Complete meaning tells) : Complete (Value.map? meaning) (ListsMap tells)
  | _, kept, .object listed => by
      have meant := listed.imp fun _ _ here => And.imp_right (@complete _ _) here
      have distinct : ((∅ : OrderedMap String α).keys ++ kept.entries.map Prod.fst).Nodup :=
        kept.nodup
      obtain ⟨whole, read, entries⟩ := enter?_named_of_distinct meant distinct
      obtain rfl : whole = kept := OrderedMap.ext entries
      exact read

theorem Entry.complete_meaning? :
    Complete (Entry.meaning? : Value σ → Option Entry) Entry.Lists :=
  complete_map? complete_text?

/-- A record is read when every field that is known by name allows it. -/
theorem exists_namedFields?_eq_some {fields : List (FieldMeaning σ ρ)}
    (distinct : (fields.map (·.name)).Nodup) {members : List (String × Value σ)}
    (allowed : ∀ name ∈ fields.map (·.name), ∀ field ∈ fields, field.name = name →
      field.Allows [] members) (empty : ρ) :
    ∃ result, Value.namedFields? fields [] empty (named members) = some result := by
  rw [← Option.isSome_iff_exists, isSome_namedFields? distinct .nil]
  exact fun field known => allowed field.name (List.mem_map_of_mem known) field known rfl

theorem MethodDescriptor.complete_meaning? :
    Complete (meaning? : Value σ → Option MethodDescriptor) Lists
  | _, method, @Lists.object _ _ members _ returns arguments => by
      have text : Complete (Value.text? : Value σ → Option String) TellsText := complete_text?
      have entry : Complete (Entry.meaning? : Value σ → Option Entry) _ := Entry.complete_meaning?
      have allowed : ∀ name ∈ (known : List (FieldMeaning σ MethodDescriptor)).map (·.name),
          ∀ field ∈ known, field.name = name → field.Allows [] members := by
        rw [known_names]
        simp only [List.forall_mem_cons, List.not_mem_nil, false_imp_iff, implies_true, and_true]
        exact ⟨returns.allows (text.orNull? rfl) shows_returns {},
          arguments.allows entry.list? shows_arguments {}⟩
      obtain ⟨result, read⟩ := exists_namedFields?_eq_some distinct_known allowed {}
      have same : result = method := by
        cases method
        cases result
        congr
        · exact returns.get_eq (text.orNull? rfl) shows_returns (by simp [known_names]) read rfl
        · exact arguments.get_eq entry.list? shows_arguments (by simp [known_names]) read rfl
      rw [← same]
      exact read

theorem PartDescriptor.complete_meaning? :
    Complete (meaning? : Value σ → Option PartDescriptor) Lists
  | _, part, @Lists.object _ _ members _ parent flag methods properties events => by
      have text : Complete (Value.text? : Value σ → Option String) TellsText := complete_text?
      have entry : Complete (Entry.meaning? : Value σ → Option Entry) _ := Entry.complete_meaning?
      have method : Complete (MethodDescriptor.meaning? : Value σ → Option MethodDescriptor) _ :=
        MethodDescriptor.complete_meaning?
      have allowed : ∀ name ∈ (known : List (FieldMeaning σ PartDescriptor)).map (·.name),
          ∀ field ∈ known, field.name = name → field.Allows [] members := by
        rw [known_names]
        simp only [List.forall_mem_cons, List.not_mem_nil, false_imp_iff, implies_true, and_true]
        exact ⟨parent.allows (text.orNull? rfl) shows_parent {},
          flag.allows complete_flag? shows_isDefault {},
          methods.allows (complete_map? method) shows_methods {},
          properties.allows (complete_map? text) shows_properties {},
          events.allows (complete_map? entry.list?) shows_events {}⟩
      obtain ⟨result, read⟩ := exists_namedFields?_eq_some distinct_known allowed {}
      have same : result = part := by
        cases part
        cases result
        congr
        · exact parent.get_eq (text.orNull? rfl) shows_parent (by simp [known_names]) read rfl
        · exact flag.get_eq complete_flag? shows_isDefault (by simp [known_names]) read rfl
        · exact methods.get_eq (complete_map? method) shows_methods (by simp [known_names]) read rfl
        · exact properties.get_eq (complete_map? text) shows_properties (by simp [known_names]) read
            rfl
        · exact events.get_eq (complete_map? entry.list?) shows_events (by simp [known_names]) read
            rfl
      rw [← same]
      exact read

theorem Descriptors.complete_meaning? :
    Complete (meaning? : Value σ → Option Descriptors) Lists :=
  complete_map? PartDescriptor.complete_meaning?

/-! ## Every descriptor file has a spelling -/

/-- An object with the entries of a map. -/
def mapTree (tree : α → Value String) (kept : OrderedMap String α) : Value String :=
  .object (kept.entries.map fun entry => (entry.1, tree entry.2))

theorem listsMap_mapTree {tells : Value String → α → Prop} {tree : α → Value String}
    (told : ∀ content, tells (tree content) content) (kept : OrderedMap String α) :
    ListsMap tells (mapTree tree kept) kept := by
  rw [mapTree, ← named_eq_self (kept.entries.map _)]
  refine .object (List.forall₂_map_left_iff.2 (List.forall₂_same.2 ?_))
  exact fun entry _ => ⟨rfl, told entry.2⟩

/-- An array with the elements of a list. -/
def listTree (tree : α → Value String) (contents : List α) : Value String :=
  .array (contents.map tree)

theorem tellsList_listTree {tells : Value String → α → Prop} {tree : α → Value String}
    (told : ∀ content, tells (tree content) content) (contents : List α) :
    TellsList tells (listTree tree contents) contents :=
  .array (List.forall₂_map_left_iff.2 (List.forall₂_same.2 fun content _ => told content))

/-- A string, or `null` if there is none. -/
def optionTree (content : Option String) : Value String :=
  content.elim .null .string

theorem tellsOption_optionTree (content : Option String) :
    TellsOption TellsText (optionTree content) content := by
  cases content with
  | none => exact .null
  | some text => exact .given (.string text)

/-- A value that spells a parameter entry. -/
def Entry.tree : Entry → Value String :=
  mapTree .string

theorem Entry.lists_tree (entry : Entry) : Lists entry.tree entry :=
  listsMap_mapTree .string entry

/-- A value that spells a method. -/
def MethodDescriptor.tree (method : MethodDescriptor) : Value String :=
  .object [("returns", optionTree method.returns),
    ("arguments", listTree Entry.tree method.arguments)]

theorem MethodDescriptor.lists_tree (method : MethodDescriptor) : Lists method.tree method := by
  rw [tree, ← named_eq_self [_, _]]
  constructor
  · exact .given (by simp) (tellsOption_optionTree _)
  · exact .given (by simp) (tellsList_listTree Entry.lists_tree _)

/-- A value that spells a part. -/
def PartDescriptor.tree (part : PartDescriptor) : Value String :=
  .object [("extends", optionTree part.parent), ("default", .boolean part.isDefault),
    ("methods", mapTree MethodDescriptor.tree part.methods),
    ("properties", mapTree .string part.properties),
    ("events", mapTree (listTree Entry.tree) part.events)]

theorem PartDescriptor.lists_tree (part : PartDescriptor) : Lists part.tree part := by
  have properties : ListsMap TellsText (mapTree .string part.properties) part.properties :=
    listsMap_mapTree .string _
  rw [tree, ← named_eq_self [_, _, _, _, _]]
  constructor
  · exact .given (by simp) (tellsOption_optionTree _)
  · exact .given (by simp) (.boolean _)
  · exact .given (by simp) (listsMap_mapTree MethodDescriptor.lists_tree _)
  · exact .given (by simp) properties
  · exact .given (by simp) (listsMap_mapTree (tellsList_listTree Entry.lists_tree) _)

namespace Descriptors

/-- A value that spells a descriptor file. -/
def tree : Descriptors → Value String :=
  mapTree PartDescriptor.tree

theorem lists_tree (all : Descriptors) : Lists all.tree all :=
  listsMap_mapTree PartDescriptor.lists_tree all

/-- A text spells descriptors if it spells a value that lists them. -/
inductive SpelledBy (all : Descriptors) (text : String) : Prop where
  | value {σ : Type} [Lettered σ] {value : Value σ} :
      Lists value all → value.SpelledBy text → SpelledBy all text

/-- Every descriptor file has a spelling, and each of its spellings is read as that file. -/
theorem spellings_read (all : Descriptors) :
    (∃ text, all.SpelledBy text) ∧ ∀ text, all.SpelledBy text → ofText text = .ok all := by
  constructor
  · exact ⟨_, .value all.lists_tree all.tree.spelledBy_compact⟩
  · rintro text ⟨listed, spelled⟩
    exact (ofText_eq_ok_iff spelled).2 (complete_meaning? listed)

/-- A lamp without members of its own. -/
def plainLamp : Descriptors :=
  .ofList [("Lamp", {})]

/-- The lamp with an escape in its name, an unknown field that holds half of a surrogate pair, and
its flag written as `null`. -/
def plainLampText : String :=
  "\x7b\"L\\u0061mp\" : \x7b\"\\n\":[\"\\ud800\", 7], \"default\" :null\x7d\x7d"

theorem plainLamp_spelledBy : plainLamp.SpelledBy plainLampText := by
  let seven : Numeral := ⟨false, ⟨'7', [], by simp⟩, none, none, by decide⟩
  let unknown : Value (List Nat) := .array [.string [0xd800], .number seven]
  let lamp : Value (List Nat) := .object (named [("\n", unknown), ("default", .null)])
  have listed : Lists (.object (named [("Lamp", lamp)])) plainLamp :=
    .object (.cons ⟨rfl, .object (.missing rfl) (.given rfl .null) (.missing rfl) (.missing rfl)
      (.missing rfl)⟩ .nil)
  have zero : IsHexDigit '0' 0 := .inl rfl
  have space (text : List Char) : Space (' ' :: text) text := ⟨[' '], rfl, by simp [isSpace]⟩
  have lampName {rest : List Char} : Letters
      (['L', '\\', 'u', '0', '0', '6', '1', 'm', 'p', '"'] ++ rest) (units "Lamp") rest :=
    .raw (by decide) (by decide) (by decide) <|
      .unit zero zero (.inl rfl : IsHexDigit '6' 6) (.inl rfl : IsHexDigit '1' 1) <|
      .raw (by decide) (by decide) (by decide) <| .raw (by decide) (by decide) (by decide) .close
  have breakName {rest : List Char} : Letters (['\\', 'n', '"'] ++ rest) (units "\n") rest :=
    .short (by decide) .close
  have half {rest : List Char} : Letters
      (['\\', 'u', 'd', '8', '0', '0', '"'] ++ rest) [0xd800] rest :=
    .unit (.inl rfl : IsHexDigit 'd' 13) (.inl rfl : IsHexDigit '8' 8) zero zero .close
  have defaultName {rest : List Char} : Letters
      (['d', 'e', 'f', 'a', 'u', 'l', 't', '"'] ++ rest) (units "default") rest := by
    iterate 7 refine .raw (by decide) (by decide) (by decide) ?_
    exact .close
  have unknownSpelled {rest : List Char} : Json.Spells
      (['[', '"', '\\', 'u', 'd', '8', '0', '0', '"', ',', ' ', '7', ']'] ++ rest) unknown rest :=
    .array (.refl _) <| .item .first (.string (.refl _) half) <|
      .item (.later (.refl _)) (.number (space _) (endsNumber_cons (by simp) _)) (.close (.refl _))
  have chars : plainLampText.toList = ['\x7b', '"', 'L', '\\', 'u', '0', '0', '6', '1', 'm', 'p',
      '"', ' ', ':', ' ', '\x7b', '"', '\\', 'n', '"', ':', '[', '"', '\\', 'u', 'd', '8', '0',
      '0', '"', ',', ' ', '7', ']', ',', ' ', '"', 'd', 'e', 'f', 'a', 'u', 'l', 't', '"', ' ', ':',
      'n', 'u', 'l', 'l', '\x7d', '\x7d'] := rfl
  refine .value listed ⟨[], ?_, .refl _⟩
  rw [chars]
  refine .object (.refl _) (.member .first (.refl _) lampName (space _) ?_ (.close (.refl _)))
  exact .object (space _) <| .member .first (.refl _) breakName (.refl _) unknownSpelled <|
    .member (.later (.refl _)) (space _) defaultName (space _) (.null (.refl _)) (.close (.refl _))

/-- A lamp with members of every kind, and the base that it extends. -/
def wiredLamp : Descriptors := .ofList
  [("Lamp",
    { parent := some "Base"
      methods := .ofList
        [("Switch",
          { returns := some "boolean"
            arguments := [.ofList [("on", "boolean"), ("dim", "number")]] })]
      properties := .ofList [("Power", "number"), ("Name", "string")]
      events := .ofList [("Lit", [.ofList [("by", "Player"), ("level", "number")], ∅])] }),
    ("Base", { isDefault := true, events := .ofList [("Ready", [])] })]

/-- The lamp and its base as a value.  The fields of the lamp and of its method stand in another
order, among one that is not known. -/
def wiredLampTree : Value String :=
  let lit : Value String := .object
    (named [("by", .string "Player"), ("level", .string "number")])
  let switched : Value String := .object
    (named [("on", .string "boolean"), ("dim", .string "number")])
  let switch : Value String := .object
    (named [("arguments", .array [switched]), ("returns", .string "boolean")])
  let lamp : Value String := .object (named
    [("events", .object (named [("Lit", .array [lit, .object (named [])])])),
      ("icon", .object (named [("events", .null)])),
      ("properties", .object (named [("Power", .string "number"), ("Name", .string "string")])),
      ("methods", .object (named [("Switch", switch)])),
      ("extends", .string "Base")])
  let base : Value String := .object (named
    [("events", .object (named [("Ready", .array [])])), ("default", .boolean true)])
  .object (named [("Lamp", lamp), ("Base", base)])

theorem wiredLampTree_lists : Lists wiredLampTree wiredLamp := by
  refine .object (.cons ⟨rfl, ?lamp⟩ (.cons ⟨rfl, ?base⟩ .nil))
  case lamp =>
    refine .object (.given rfl (.given (.string _))) (.missing rfl) (.given rfl ?methods)
      (.given rfl ?properties) (.given rfl ?events)
    case methods =>
      refine .object (.cons ⟨rfl, .object (.given rfl (.given (.string _))) ?_⟩ .nil)
      refine .given rfl (.array (.cons ?_ .nil))
      exact .object (.cons ⟨rfl, .string _⟩ (.cons ⟨rfl, .string _⟩ .nil))
    case properties => exact .object (.cons ⟨rfl, .string _⟩ (.cons ⟨rfl, .string _⟩ .nil))
    case events =>
      refine .object (.cons ⟨rfl, .array (.cons ?_ (.cons (.object .nil) .nil))⟩ .nil)
      exact .object (.cons ⟨rfl, .string _⟩ (.cons ⟨rfl, .string _⟩ .nil))
  case base =>
    refine .object (.missing rfl) (.given rfl (.boolean _)) (.missing rfl) (.missing rfl) ?_
    exact .given rfl (.object (.cons ⟨rfl, .array .nil⟩ .nil))

theorem lampTexts_read :
    (plainLamp.SpelledBy plainLampText ∧ ofText plainLampText = .ok plainLamp) ∧
      wiredLamp.SpelledBy (String.ofList wiredLampTree.compact) ∧
        ofText (String.ofList wiredLampTree.compact) = .ok wiredLamp := by
  have spelled : wiredLamp.SpelledBy (String.ofList wiredLampTree.compact) :=
    .value wiredLampTree_lists wiredLampTree.spelledBy_compact
  exact ⟨⟨plainLamp_spelledBy, (spellings_read plainLamp).2 plainLampText plainLamp_spelledBy⟩,
    spelled, (spellings_read wiredLamp).2 _ spelled⟩

end Descriptors

end PartDefs
