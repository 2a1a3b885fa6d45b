import PartDefs.Proofs.Json.Members

/-!
# Kinds of JSON values

The kinds of values that can be wanted, and what a value of each kind tells, in terms of trees
alone.  A record may be an object or an array, and in an array each field has its place.
-/

namespace PartDefs.Json

variable {σ α β ρ : Type}

/-! ## What values tell -/

/-- A string tells a text. -/
inductive TellsText [Lettered σ] : Value σ → String → Prop where
  | string (text : String) : TellsText (.string (Lettered.ofText text)) text

/-- A boolean tells itself, and `null` tells `false`. -/
inductive TellsFlag : Value σ → Bool → Prop where
  | null : TellsFlag .null false
  | boolean (flag : Bool) : TellsFlag (.boolean flag) flag

/-- `null` tells that there is nothing. -/
inductive TellsOption (tells : Value σ → α → Prop) : Value σ → Option α → Prop where
  | null : TellsOption tells .null none
  | given {value : Value σ} {content : α} :
      tells value content → TellsOption tells value (some content)

/-- An array tells what its elements tell. -/
inductive TellsList (tells : Value σ → α → Prop) : Value σ → List α → Prop where
  | array {items : List (Value σ)} {contents : List α} :
      List.Forall₂ tells items contents → TellsList tells (.array items) contents

/-- An object tells a map, in which the last member of a name counts. -/
inductive TellsMap (tells : Value String → α → Prop) :
    Value String → OrderedMap String α → Prop where
  | object {members : List (String × Value String)} {kept : OrderedMap String α} :
      Keeps tells members kept → TellsMap tells (.object members) kept

/-- A field holds what the given value tells, and something fixed if there is none. -/
inductive TellsField (tells : Value σ → α → Prop) (initial : α) : Option (Value σ) → α → Prop where
  | missing : TellsField tells initial none initial
  | given {value : Value σ} {content : α} :
      tells value content → TellsField tells initial (some value) content

/-! ## What is told is meant -/

/-- A value means whatever it tells. -/
def Complete (meaning : Value σ → Option α) (tells : Value σ → α → Prop) : Prop :=
  ∀ ⦃value content⦄, tells value content → meaning value = some content

variable {meaning : Value σ → Option α} {tells : Value σ → α → Prop}

theorem complete_text? [Lettered σ] : Complete (Value.text? : Value σ → Option String) TellsText
  | _, _, .string text => textOf?_ofText text

theorem complete_flag? : Complete (fun value : Value σ =>
    (value.orNull? Value.flag?).map (·.getD false)) TellsFlag
  | _, _, .null => rfl
  | _, _, .boolean _ => rfl

theorem Complete.orNull? (complete : Complete meaning tells) (notNull : meaning .null = none) :
    Complete (Value.orNull? meaning) (TellsOption tells)
  | _, _, .null => rfl
  | value, _, .given told => by
      have meant := complete told
      cases value with
      | null =>
          rw [notNull] at meant
          cases meant
      | boolean _ | number _ | string _ | array _ | object _ =>
          rw [Value.orNull?, meant, Option.map_some]
          simp

theorem mapM_eq_some_iff {items : List (Value σ)} {contents : List α} :
    items.mapM meaning = some contents ↔
      List.Forall₂ (fun value content => meaning value = some content) items contents := by
  induction items generalizing contents with
  | nil => cases contents <;> simp
  | cons value items ih =>
      rw [List.mapM_cons]
      constructor
      · intro read
        obtain ⟨content, here, read⟩ := Option.bind_eq_some_iff.1 read
        obtain ⟨later, rest, read⟩ := Option.bind_eq_some_iff.1 read
        obtain rfl := Option.some.inj read
        exact .cons here (ih.1 rest)
      · rintro (_ | ⟨here, later⟩)
        rw [here, Option.bind_eq_bind, Option.bind_some, ih.2 later]
        rfl

theorem Complete.list? (complete : Complete meaning tells) :
    Complete (Value.list? meaning) (TellsList tells)
  | _, _, .array told => mapM_eq_some_iff.2 (told.imp fun _ _ here => complete here)

/-! ## What is meant is told -/

/-- A value tells whatever it means. -/
def Sound (meaning : Value σ → Option α) (tells : Value σ → α → Prop) : Prop :=
  ∀ ⦃value content⦄, meaning value = some content → tells value content

theorem sound_text? : Sound (Value.text? : Value String → Option String) TellsText := by
  intro value text meant
  cases value with
  | string letters =>
      rw [Value.text?, textOf?_string] at meant
      obtain rfl := Option.some.inj meant
      exact .string letters
  | null | boolean _ | number _ | array _ | object _ => cases meant

theorem sound_flag? : Sound (fun value : Value σ =>
    (value.orNull? Value.flag?).map (·.getD false)) TellsFlag := by
  intro value flag meant
  cases value with
  | null =>
      obtain rfl := Option.some.inj meant
      exact .null
  | boolean given =>
      obtain rfl := Option.some.inj meant
      exact .boolean given
  | number _ | string _ | array _ | object _ => cases meant

theorem Sound.orNull? (sound : Sound meaning tells) :
    Sound (Value.orNull? meaning) (TellsOption tells) := by
  intro value content meant
  cases value with
  | null =>
      obtain rfl := Option.some.inj meant
      exact .null
  | boolean _ | number _ | string _ | array _ | object _ =>
      obtain ⟨content, here, rfl⟩ := Option.map_eq_some_iff.1 meant
      exact .given (sound here)

theorem Sound.list? (sound : Sound meaning tells) :
    Sound (Value.list? meaning) (TellsList tells) := by
  intro value contents meant
  cases value with
  | array items => exact .array ((mapM_eq_some_iff.1 meant).imp fun _ _ here => sound here)
  | null | boolean _ | number _ | string _ | object _ => cases meant

theorem Keeps.imp {p q : β → α → Prop} (weaker : ∀ value content, p value content →
    q value content) {members : List (String × β)} {kept : OrderedMap String α}
    (keeps : Keeps p members kept) : Keeps q members kept := by
  refine ⟨keeps.keys, fun name => ?_⟩
  have held := keeps.values name
  generalize last? name members = given, kept.get? name = entry at held ⊢
  cases held with
  | some here => exact .some (weaker _ _ here)
  | none => exact .none

theorem Sound.map? {meaning : Value String → Option α} {tells : Value String → α → Prop}
    (sound : Sound meaning tells) : Sound (Value.map? meaning) (TellsMap tells) := by
  intro value kept meant
  cases value with
  | object members =>
      rw [Value.map?, ← named_eq_self members] at meant
      exact .object ((keeps_of_enter? meant).imp fun _ _ here => sound here)
  | null | boolean _ | number _ | string _ | array _ => cases meant

/-- The value that is given for a field, by its name in an object and by its place in an array. -/
def Value.given? (name : String) (place : Nat) : Value String → Option (Value String)
  | .object members => OrderedMap.lookup name members
  | .array items => items[place]?
  | _ => none

theorem Shows.tellsField {fields : List (FieldMeaning String ρ)} {name : String}
    {meaning : Value String → Option β} {get : ρ → β} (shows : Shows fields name meaning get)
    (distinct : (fields.map (·.name)).Nodup) {place : Nat}
    (known : (fields.map (·.name))[place]? = some name) {tells : Value String → β → Prop}
    (sound : Sound meaning tells) {initial result : ρ} {value : Value String}
    (meant : value.record? fields initial = some result) :
    TellsField tells (get initial) (value.given? name place) (get result) := by
  have held : (value.given? name place).elim (some (get initial)) meaning = some (get result) := by
    cases value with
    | object members =>
        rw [Value.record?, ← named_eq_self members] at meant
        have allowed := (isSome_namedFields? distinct .nil).1 (Option.isSome_of_eq_some meant)
        obtain ⟨field, own, rfl⟩ := List.mem_map.1 (List.mem_of_getElem? known)
        exact shows.namedFields? (List.mem_of_getElem? known) (allowed field own).1 meant
    | array items => exact shows.listedFields? distinct known meant
    | null | boolean _ | number _ | string _ => cases meant
  cases given : value.given? name place with
  | none =>
      rw [given] at held
      rw [← Option.some.inj held]
      exact .missing
  | some own =>
      rw [given] at held
      exact .given (sound held)

/-! ## Values that mean something -/

namespace Value

/-- A string. -/
def IsText : Value String → Prop
  | .string _ => True
  | _ => False

/-- A boolean. -/
def IsFlag : Value String → Prop
  | .boolean _ => True
  | _ => False

/-- A value of a kind, or `null`. -/
def OrNull (fits : Value String → Prop) : Value String → Prop
  | .null => True
  | value => fits value

/-- An array of values of a kind. -/
def ArrayOf (fits : Value String → Prop) : Value String → Prop
  | .array items => ∀ item ∈ items, fits item
  | _ => False

/-- An object with values of a kind, under any names. -/
def ObjectOf (fits : Value String → Prop) : Value String → Prop
  | .object members => ∀ member ∈ members, fits member.2
  | _ => False

/-- An object in which each field is given at most once and fits, among any other members, or an
array of values that fit the first fields. -/
def RecordOf (fields : List (String × (Value String → Prop))) : Value String → Prop
  | .object members => ∀ field ∈ fields, (members.map Prod.fst).count field.1 ≤ 1 ∧
      ∀ member ∈ members, member.1 = field.1 → field.2 member.2
  | .array items =>
      items.length ≤ fields.length ∧ ∀ pair ∈ items.zip fields, pair.2.2 pair.1
  | _ => False

end Value

theorem accepts_text? : Accepts Value.text? = Value.IsText := by
  funext value
  cases value <;> simp [Accepts, Value.text?, Value.IsText]

theorem accepts_flag? : Accepts Value.flag? = Value.IsFlag := by
  funext value
  cases value <;> simp [Accepts, Value.flag?, Value.IsFlag]

section Acceptance

variable (meaning : Value String → Option α)

theorem accepts_orNull? : Accepts (Value.orNull? meaning) = Value.OrNull (Accepts meaning) := by
  funext value
  cases value <;> simp [Accepts, Value.orNull?, Value.OrNull]

theorem isSome_mapM {meaning : Value σ → Option α} {items : List (Value σ)} :
    (items.mapM meaning).isSome = true ↔ ∀ item ∈ items, Accepts meaning item := by
  induction items with
  | nil => simp
  | cons value items ih =>
      rw [List.mapM_cons, List.forall_mem_cons, ← ih, Accepts]
      cases meaning value with
      | none => simp
      | some content => cases items.mapM meaning <;> simp

theorem accepts_list? : Accepts (Value.list? meaning) = Value.ArrayOf (Accepts meaning) := by
  funext value
  cases value with
  | array items => exact propext isSome_mapM
  | null | boolean _ | number _ | string _ | object _ =>
      simp [Accepts, Value.list?, Value.ArrayOf]

theorem accepts_map? : Accepts (Value.map? meaning) = Value.ObjectOf (Accepts meaning) := by
  funext value
  cases value with
  | object members =>
      have read : (Value.enter? meaning ∅ (named members)).isSome = true ↔
          ∀ member ∈ members, Accepts meaning member.2 := isSome_enter?_named
      rw [named_eq_self] at read
      exact propext read
  | null | boolean _ | number _ | string _ | array _ =>
      simp [Accepts, Value.map?, Value.ObjectOf]

theorem accepts_map_option {set : α → β} :
    Accepts (fun value => (meaning value).map set) = Accepts meaning := by
  funext value
  simp [Accepts]

theorem accepts_record? {fields : List (FieldMeaning String ρ)}
    (distinct : (fields.map (·.name)).Nodup) (initial : ρ) :
    Accepts (Value.record? fields initial) =
      Value.RecordOf (fields.map fun field => (field.name, Accepts field.change?)) := by
  funext value
  cases value with
  | object members =>
      have read : (Value.namedFields? fields [] initial (named members)).isSome = true ↔
          ∀ field ∈ fields, field.Allows [] members := isSome_namedFields? distinct .nil
      rw [named_eq_self] at read
      rw [Value.RecordOf, List.forall_mem_map]
      exact propext read
  | array items =>
      rw [Value.RecordOf, List.length_map, List.zip_map_right, List.forall_mem_map]
      exact propext isSome_listedFields?
  | null | boolean _ | number _ | string _ => simp [Accepts, Value.record?, Value.RecordOf]

end Acceptance

end PartDefs.Json
