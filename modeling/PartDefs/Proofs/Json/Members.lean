import Mathlib.Data.List.Induction
import Mathlib.Data.List.Nodup
import PartDefs.Proofs.Json.Meaning
import PartDefs.Proofs.Overlay

/-!
# Maps and records by their members

What a map or a record holds, told from the members or elements that are given and not from the
order of reading them.  In a map the last member of a name counts, at the place of the first one.
In a record a field is given at most once.
-/

namespace PartDefs.Json

variable {σ α β ρ : Type}

/-- A value that means something to a reader. -/
def Accepts (meaning : Value σ → Option α) (value : Value σ) : Prop :=
  (meaning value).isSome = true

/-! ## Keeping members -/

/-- The value of the last member of a name. -/
def last? (name : String) (members : List (String × α)) : Option α :=
  OrderedMap.lookup name members.reverse

/-- A map keeps each name at its first place and with its last value. -/
structure Keeps (means : β → α → Prop) (members : List (String × β))
    (kept : OrderedMap String α) : Prop where
  keys : kept.keys = (members.map Prod.fst).eraseDups
  values : ∀ name, Option.Rel means (last? name members) (kept.get? name)

/-- Another member takes the place of the last one of its name. -/
theorem Keeps.insert {means : β → α → Prop} {members : List (String × β)}
    {kept : OrderedMap String α} (keeps : Keeps means members kept) {name : String} {value : β}
    {entry : α} (meant : means value entry) :
    Keeps means (members ++ [(name, value)]) (kept.insert name entry) := by
  constructor
  · rw [OrderedMap.keys_insert, keeps.keys, List.map_append, List.map_singleton,
      List.eraseDups_append]
    by_cases old : name ∈ members.map Prod.fst <;>
      simp [List.cons_removeAll, List.eraseDups_cons, old]
  · intro other
    rw [last?, List.reverse_append, List.reverse_singleton, List.singleton_append,
      OrderedMap.lookup, OrderedMap.get?_insert]
    by_cases same : name = other
    · rw [if_pos same, if_pos same.symm]
      exact .some meant
    · rw [if_neg same, if_neg (Ne.symm same)]
      exact keeps.values other

/-! ## Fields -/

namespace FieldMeaning

/-- What a field demands: its name is given at most once, and only with values that it takes. -/
def Allows (field : FieldMeaning σ ρ) (given : List String) (members : List (String × Value σ)) :
    Prop :=
  (given ++ members.map Prod.fst).count field.name ≤ 1 ∧
    ∀ member ∈ members, member.1 = field.name → Accepts field.change? member.2

variable {field : FieldMeaning σ ρ} {given : List String} {member : String × Value σ}
  {members : List (String × Value σ)}

theorem allows_cons_of_ne (other : member.1 ≠ field.name) :
    field.Allows given (member :: members) ↔ field.Allows given members := by
  simp [Allows, List.count_append, other]

/-- A member that has been taken counts among the names given before. -/
theorem allows_cons_of_accepts (taken : member.1 = field.name → Accepts field.change? member.2) :
    field.Allows given (member :: members) ↔ field.Allows (member.1 :: given) members := by
  rw [Allows, Allows, List.forall_mem_cons, and_iff_right taken, List.map_cons,
    List.perm_middle.count_eq, List.cons_append]

theorem not_allows_of_mem (known : member.1 = field.name) (old : member.1 ∈ given) :
    ¬field.Allows given (member :: members) := by
  rintro ⟨once, -⟩
  have before := List.one_le_count_iff.2 old
  rw [List.count_append, List.map_cons, List.count_cons, known] at *
  simp at once
  omega

end FieldMeaning

/-! ## Records as arrays -/

variable {fields : List (FieldMeaning σ ρ)}

/-- A record is read from an array exactly when every element suits its field. -/
theorem isSome_listedFields? {record : ρ} {items : List (Value σ)} :
    (Value.listedFields? fields record items).isSome = true ↔
      items.length ≤ fields.length ∧ ∀ pair ∈ items.zip fields, Accepts pair.2.change? pair.1 := by
  induction fields generalizing record items with
  | nil => cases items <;> simp [Value.listedFields?]
  | cons field fields ih =>
      cases items with
      | nil => simp [Value.listedFields?]
      | cons value items =>
          rw [Value.listedFields?, List.zip_cons_cons, List.forall_mem_cons, Accepts]
          cases field.change? value with
          | none => simp
          | some change => simp [ih]

/-- The fields of a record, one of which decides what `get` shows of it. -/
structure Shows (fields : List (FieldMeaning σ ρ)) (name : String) (meaning : Value σ → Option β)
    (get : ρ → β) : Prop where
  own : ∀ field ∈ fields, field.name = name → ∀ value record,
    meaning value = (field.change? value).map fun change => get (change record)
  other : ∀ field ∈ fields, field.name ≠ name → ∀ value change, field.change? value = some change →
    ∀ record, get (change record) = get record

namespace Shows

variable {name : String} {meaning : Value σ → Option β} {get : ρ → β}

theorem tail {field : FieldMeaning σ ρ} (shows : Shows (field :: fields) name meaning get) :
    Shows fields name meaning get :=
  ⟨fun other listed => shows.own other (List.mem_cons_of_mem _ listed),
    fun other listed => shows.other other (List.mem_cons_of_mem _ listed)⟩

/-- Elements for other fields do not matter. -/
theorem listedFields?_of_notMem (shows : Shows fields name meaning get)
    (absent : name ∉ fields.map (·.name)) {record result : ρ} {items : List (Value σ)}
    (read : Value.listedFields? fields record items = some result) : get result = get record := by
  induction fields generalizing record items with
  | nil =>
      cases items with
      | nil =>
          obtain rfl := Option.some.inj read
          rfl
      | cons value items => cases read
  | cons field fields ih =>
      simp only [List.map_cons, List.mem_cons, not_or] at absent
      cases items with
      | nil =>
          obtain rfl := Option.some.inj read
          rfl
      | cons value items =>
          rw [Value.listedFields?, Option.bind_eq_some_iff] at read
          obtain ⟨change, changed, read⟩ := read
          rw [ih shows.tail absent.2 read,
            shows.other field List.mem_cons_self (Ne.symm absent.1) value change changed]

theorem listedFields? (shows : Shows fields name meaning get)
    (distinct : (fields.map (·.name)).Nodup) {place : Nat}
    (known : (fields.map (·.name))[place]? = some name) {record result : ρ}
    {items : List (Value σ)} (read : Value.listedFields? fields record items = some result) :
    items[place]?.elim (some (get record)) meaning = some (get result) := by
  induction fields generalizing record items place with
  | nil => cases known
  | cons field fields ih =>
      obtain ⟨fresh, distinct⟩ := List.nodup_cons.1 distinct
      cases items with
      | nil =>
          obtain rfl := Option.some.inj read
          rfl
      | cons value items =>
          rw [Value.listedFields?, Option.bind_eq_some_iff] at read
          obtain ⟨change, changed, read⟩ := read
          cases place with
          | zero =>
              obtain rfl : field.name = name := Option.some.inj known
              rw [shows.tail.listedFields?_of_notMem fresh read, List.getElem?_cons_zero,
                Option.elim_some, shows.own field List.mem_cons_self rfl value record, changed,
                Option.map_some]
          | succ place =>
              have known : (fields.map (·.name))[place]? = some name := known
              have apart : field.name ≠ name := by
                rintro rfl
                exact fresh (List.mem_of_getElem? known)
              have kept := shows.other field List.mem_cons_self apart value change changed record
              have rest := ih shows.tail distinct known read
              rwa [kept] at rest

end Shows

/-! ## Members named by texts -/

variable [Lettered σ]

/-- Members whose names are texts. -/
def named (members : List (String × Value σ)) : List (σ × Value σ) :=
  members.map fun member => (Lettered.ofText member.1, member.2)

theorem named_eq_self (members : List (String × Value String)) : named members = members :=
  List.map_id' members

/-! ## Reading maps -/

section Maps

variable {meaning : Value σ → Option α}

theorem enter?_named_cons (kept : OrderedMap String α) (member : String × Value σ)
    (members : List (String × Value σ)) :
    Value.enter? meaning kept (named (member :: members)) =
      (meaning member.2).bind fun entry =>
        Value.enter? meaning (kept.insert member.1 entry) (named members) := by
  rw [named, List.map_cons, Value.enter?, textOf?_ofText, Option.bind_some]
  rfl

theorem enter?_named_append (kept : OrderedMap String α) (first second : List (String × Value σ)) :
    Value.enter? meaning kept (named (first ++ second)) =
      (Value.enter? meaning kept (named first)).bind fun kept =>
        Value.enter? meaning kept (named second) := by
  induction first generalizing kept with
  | nil => rfl
  | cons member first ih =>
      rw [List.cons_append, enter?_named_cons, enter?_named_cons, Option.bind_assoc]
      exact congrArg (Option.bind _) (funext fun entry => ih (kept.insert member.1 entry))

/-- A map is read exactly when every member is, those that are overwritten too. -/
theorem isSome_enter?_named {kept : OrderedMap String α} {members : List (String × Value σ)} :
    (Value.enter? meaning kept (named members)).isSome = true ↔
      ∀ member ∈ members, Accepts meaning member.2 := by
  induction members generalizing kept with
  | nil => simp [named, Value.enter?]
  | cons member members ih =>
      rw [enter?_named_cons, List.forall_mem_cons, Accepts]
      cases meaning member.2 with
      | none => simp
      | some entry => rw [Option.bind_some, ih, Option.isSome_some, eq_self, true_and]

theorem keeps_of_enter? {members : List (String × Value σ)} {kept : OrderedMap String α}
    (read : Value.enter? meaning ∅ (named members) = some kept) :
    Keeps (fun value entry => meaning value = some entry) members kept := by
  induction members using List.reverseRecOn generalizing kept with
  | nil =>
      obtain rfl := Option.some.inj read
      exact ⟨rfl, fun _ => .none⟩
  | append_singleton members member ih =>
      rw [enter?_named_append, Option.bind_eq_some_iff] at read
      obtain ⟨before, earlier, read⟩ := read
      rw [enter?_named_cons, Option.bind_eq_some_iff] at read
      obtain ⟨entry, meant, read⟩ := read
      obtain rfl := Option.some.inj read
      exact (ih earlier).insert meant

/-- Members with new and distinct names are put in at the end. -/
theorem enter?_named_of_distinct {kept : OrderedMap String α} {members : List (String × Value σ)}
    {entries : List (String × α)}
    (meant : List.Forall₂ (fun member entry => member.1 = entry.1 ∧
      meaning member.2 = some entry.2) members entries)
    (distinct : (kept.keys ++ entries.map Prod.fst).Nodup) :
    ∃ whole, Value.enter? meaning kept (named members) = some whole ∧
      whole.entries = kept.entries ++ entries := by
  induction meant generalizing kept with
  | nil => exact ⟨kept, rfl, (List.append_nil _).symm⟩
  | @cons member entry _ entries here _ ih =>
      obtain ⟨name, meant⟩ := here
      have fresh : entry.1 ∉ kept.keys := fun old =>
        (List.nodup_append.1 distinct).2.2 _ old _ List.mem_cons_self rfl
      have keys : (kept.insert entry.1 entry.2).keys = kept.keys ++ [entry.1] := by
        rw [OrderedMap.keys_insert, if_neg fresh]
      have later : ((kept.insert entry.1 entry.2).keys ++ entries.map Prod.fst).Nodup := by
        rw [keys, List.append_assoc]
        exact distinct
      obtain ⟨whole, read, listed⟩ := ih later
      refine ⟨whole, ?_, ?_⟩
      · rw [enter?_named_cons, meant, Option.bind_some, name, read]
      · rw [listed, OrderedMap.entries_insert_of_notMem _ fresh, List.append_assoc]
        rfl

end Maps

/-! ## Reading records -/

theorem namedFields?_cons (given : List String) (record : ρ) (member : String × Value σ)
    (members : List (String × Value σ)) :
    Value.namedFields? fields given record (named (member :: members)) =
      match fields.find? (·.name = member.1) with
      | some field =>
          if member.1 ∈ given then none
          else (field.change? member.2).bind fun change =>
            Value.namedFields? fields (member.1 :: given) (change record) (named members)
      | none => Value.namedFields? fields given record (named members) := by
  rw [named, List.map_cons, Value.namedFields?, textOf?_ofText, Option.bind_some]
  rfl

/-- A record is read from an object exactly when every field allows it. -/
theorem isSome_namedFields? (distinct : (fields.map (·.name)).Nodup) {given : List String}
    (once : given.Nodup) {record : ρ} {members : List (String × Value σ)} :
    (Value.namedFields? fields given record (named members)).isSome = true ↔
      ∀ field ∈ fields, field.Allows given members := by
  induction members generalizing given record with
  | nil =>
      refine iff_of_true rfl fun field _ => ⟨?_, by simp⟩
      simpa using List.nodup_iff_count_le_one.1 once field.name
  | cons member members ih =>
      rw [namedFields?_cons]
      cases found : fields.find? (·.name = member.1) with
      | none =>
          have unknown := List.find?_eq_none.1 found
          rw [ih once]
          refine forall₂_congr fun field listed => (FieldMeaning.allows_cons_of_ne ?_).symm
          exact fun same => unknown field listed (by simpa using same.symm)
      | some field =>
          have listed := List.mem_of_find?_eq_some found
          have name : field.name = member.1 := by simpa using List.find?_some found
          by_cases old : member.1 ∈ given
          · refine iff_of_false (by simp [old]) fun allowed => ?_
            exact FieldMeaning.not_allows_of_mem name.symm old (allowed field listed)
          · simp only [if_neg old]
            cases changed : field.change? member.2 with
            | none =>
                refine iff_of_false (by simp) fun allowed => ?_
                have taken := (allowed field listed).2 member List.mem_cons_self name.symm
                rw [Accepts, changed] at taken
                cases taken
            | some change =>
                rw [Option.bind_some, ih (List.nodup_cons.2 ⟨old, once⟩)]
                refine forall₂_congr fun other known => ?_
                refine (FieldMeaning.allows_cons_of_accepts fun same => ?_).symm
                have same : other = field :=
                  List.inj_on_of_nodup_map distinct known listed (same.symm.trans name.symm)
                rw [same, Accepts, changed]
                rfl

/-- A field of a record that is read from an object holds what its member means, if there is one. -/
theorem Shows.namedFields? {name : String} {meaning : Value σ → Option β} {get : ρ → β}
    (shows : Shows fields name meaning get) (known : name ∈ fields.map (·.name))
    {given : List String} {record result : ρ} {members : List (String × Value σ)}
    (once : (given ++ members.map Prod.fst).count name ≤ 1)
    (read : Value.namedFields? fields given record (named members) = some result) :
    (OrderedMap.lookup name members).elim (some (get record)) meaning = some (get result) := by
  induction members generalizing given record with
  | nil =>
      obtain rfl := Option.some.inj read
      rfl
  | cons member members ih =>
      obtain ⟨other, value⟩ := member
      rw [namedFields?_cons] at read
      rw [OrderedMap.lookup]
      have counted : (other :: given ++ members.map Prod.fst).count name ≤ 1 := by
        rwa [List.cons_append, ← List.perm_middle.count_eq]
      cases found : fields.find? (·.name = other) with
      | none =>
          have unknown := List.find?_eq_none.1 found
          obtain ⟨field, listed, same⟩ := List.mem_map.1 known
          have apart : other ≠ name := fun equal =>
            unknown field listed (by simpa using same.trans equal.symm)
          rw [found] at read
          rw [if_neg apart]
          exact ih (Nat.le_trans ((List.sublist_cons_self _ _).count_le _) counted) read
      | some field =>
          have listed := List.mem_of_find?_eq_some found
          have named : field.name = other := by simpa using List.find?_some found
          simp only [found] at read
          split at read
          · cases read
          · rw [Option.bind_eq_some_iff] at read
            obtain ⟨change, changed, read⟩ := read
            have rest := ih counted read
            by_cases same : other = name
            · -- The name is not given again, so what the field holds is not changed any more.
              have later : name ∉ members.map Prod.fst := fun again => by
                have := List.one_le_count_iff.2 again
                rw [same, List.cons_append, List.count_cons_self, List.count_append] at counted
                omega
              rw [OrderedMap.lookup_eq_none_iff.2 later] at rest
              rw [if_pos same, ← rest, Option.elim_some, Option.elim_none,
                shows.own field listed (named.trans same) value record, changed, Option.map_some]
            · have apart : field.name ≠ name := fun equal => same (named.symm.trans equal)
              rw [if_neg same, ← shows.other field listed apart value change changed record]
              exact rest

end PartDefs.Json
