/-!
# Ordered maps

A finite map that remembers the order in which its keys came.  Writing to a key that is already
there keeps the key's place; writing to a new key puts it last.  `fillFrom` completes one map from
another: what the first one says stands, and what only the second one says is appended in the
second one's order.
-/

namespace PartDefs

/-- A finite map given by its entries in order; no key occurs twice. -/
structure OrderedMap (κ α : Type) where
  /-- The entries, first to last. -/
  entries : List (κ × α)
  /-- Keys are pairwise distinct. -/
  nodup : (entries.map Prod.fst).Nodup
deriving DecidableEq

namespace OrderedMap

variable {κ α β : Type}

/-- The map without entries. -/
def empty : OrderedMap κ α where
  entries := []
  nodup := by simp

instance : Inhabited (OrderedMap κ α) := ⟨empty⟩

instance : EmptyCollection (OrderedMap κ α) := ⟨empty⟩

/-- The keys, first to last. -/
def keys (m : OrderedMap κ α) : List κ :=
  m.entries.map Prod.fst

/-- The values in the order of their keys. -/
def values (m : OrderedMap κ α) : List α :=
  m.entries.map Prod.snd

/-- The number of entries. -/
def size (m : OrderedMap κ α) : Nat :=
  m.entries.length

/-- A map without entries. -/
def isEmpty (m : OrderedMap κ α) : Bool :=
  m.entries.isEmpty

theorem nodup_keys (m : OrderedMap κ α) : m.keys.Nodup :=
  m.nodup

theorem nodup_entries (m : OrderedMap κ α) : m.entries.Nodup :=
  List.Pairwise.of_map Prod.fst (fun _ _ apart same => apart (congrArg Prod.fst same)) m.nodup

@[simp]
theorem entries_empty : (∅ : OrderedMap κ α).entries = [] :=
  rfl

@[simp]
theorem keys_empty : (∅ : OrderedMap κ α).keys = [] :=
  rfl

@[simp]
theorem length_keys (m : OrderedMap κ α) : m.keys.length = m.size := by
  simp [keys, size]

theorem isEmpty_iff {m : OrderedMap κ α} : m.isEmpty = true ↔ m.entries = [] := by
  simp [isEmpty]

@[ext]
theorem ext {m n : OrderedMap κ α} (same : m.entries = n.entries) : m = n := by
  cases m
  cases n
  simpa using same

/-! ## Applying a function to every value -/

/-- Replaces every value by what `f` makes of it and its key. -/
def map (f : κ → α → β) (m : OrderedMap κ α) : OrderedMap κ β where
  entries := m.entries.map fun entry => (entry.1, f entry.1 entry.2)
  nodup := by simpa [Function.comp_def] using m.nodup

@[simp]
theorem keys_map (f : κ → α → β) (m : OrderedMap κ α) : (m.map f).keys = m.keys := by
  simp [keys, map, Function.comp_def]

theorem map_value (m : OrderedMap κ α) : (m.map fun _ value => value) = m := by
  apply ext
  simp [map]

/-- Keeps the entries for which `f` yields a value, with that value. -/
def filterMap (f : κ → α → Option β) (m : OrderedMap κ α) : OrderedMap κ β where
  entries := m.entries.filterMap fun entry => (f entry.1 entry.2).map (entry.1, ·)
  nodup := by
    refine m.nodup.sublist ?_
    induction m.entries with
    | nil => simp
    | cons entry rest ih =>
        cases found : f entry.1 entry.2 with
        | none => simpa [found] using ih.cons entry.1
        | some value => simpa [found] using ih.cons_cons entry.1

/-- A function that has a value for every entry keeps all keys. -/
theorem keys_filterMap_of_isSome {f : κ → α → Option β} {m : OrderedMap κ α}
    (total : ∀ entry ∈ m.entries, (f entry.1 entry.2).isSome = true) :
    (m.filterMap f).keys = m.keys := by
  suffices ∀ entries : List (κ × α), (∀ entry ∈ entries, (f entry.1 entry.2).isSome = true) →
      (entries.filterMap fun entry => (f entry.1 entry.2).map (entry.1, ·)).map Prod.fst =
        entries.map Prod.fst from this m.entries total
  intro entries total
  induction entries with
  | nil => rfl
  | cons entry rest ih =>
      obtain ⟨here, later⟩ := List.forall_mem_cons.1 total
      obtain ⟨value, found⟩ := Option.isSome_iff_exists.1 here
      simpa [found] using ih later

/-! ## Reading and writing -/

variable [DecidableEq κ]

/-- The value of the first entry with the given key. -/
def lookup (key : κ) : List (κ × α) → Option α
  | [] => none
  | (k, v) :: rest => if k = key then some v else lookup key rest

/-- Sets the value of the first entry with the given key, or appends an entry. -/
def put (key : κ) (value : α) : List (κ × α) → List (κ × α)
  | [] => [(key, value)]
  | (k, v) :: rest => if k = key then (key, value) :: rest else (k, v) :: put key value rest

theorem fst_put (key : κ) (value : α) (entries : List (κ × α)) :
    (put key value entries).map Prod.fst =
      if key ∈ entries.map Prod.fst then entries.map Prod.fst
      else entries.map Prod.fst ++ [key] := by
  induction entries with
  | nil => simp [put]
  | cons entry rest ih =>
      obtain ⟨k, v⟩ := entry
      by_cases same : k = key
      · simp [put, same]
      · have other : key ≠ k := fun h => same h.symm
        by_cases later : key ∈ rest.map Prod.fst <;>
          simp_all [put]

/-- The value of a key. -/
def get? (m : OrderedMap κ α) (key : κ) : Option α :=
  lookup key m.entries

/-- Whether a key has a value. -/
def contains (m : OrderedMap κ α) (key : κ) : Bool :=
  decide (key ∈ m.keys)

/-- Gives a key a value: in place when the key is there, at the end when it is new. -/
def insert (m : OrderedMap κ α) (key : κ) (value : α) : OrderedMap κ α where
  entries := put key value m.entries
  nodup := by
    rw [fst_put]
    split
    · exact m.nodup
    · next fresh =>
        exact List.nodup_append.2 ⟨m.nodup, by simp, by
          intro a ha b hb same
          simp only [List.mem_singleton] at hb
          exact fresh (hb ▸ same ▸ ha)⟩

/-- The map that results from inserting entries one after another. -/
def ofList (entries : List (κ × α)) : OrderedMap κ α :=
  entries.foldl (fun m entry => m.insert entry.1 entry.2) ∅

/-- Takes a key out of the map. -/
def erase (m : OrderedMap κ α) (key : κ) : OrderedMap κ α where
  entries := m.entries.filter (·.1 ≠ key)
  nodup := m.nodup.sublist ((List.filter_sublist).map Prod.fst)

@[simp]
theorem contains_iff {m : OrderedMap κ α} {key : κ} : m.contains key = true ↔ key ∈ m.keys := by
  simp [contains]

theorem lookup_eq_none_iff {key : κ} {entries : List (κ × α)} :
    lookup key entries = none ↔ key ∉ entries.map Prod.fst := by
  induction entries with
  | nil => simp [lookup]
  | cons entry rest ih =>
      obtain ⟨k, v⟩ := entry
      by_cases same : k = key
      · simp [lookup, same]
      · have other : key ≠ k := fun h => same h.symm
        simp_all [lookup]

@[simp]
theorem get?_eq_none_iff {m : OrderedMap κ α} {key : κ} : m.get? key = none ↔ key ∉ m.keys :=
  lookup_eq_none_iff

theorem mem_keys_of_get? {m : OrderedMap κ α} {key : κ} {value : α}
    (found : m.get? key = some value) : key ∈ m.keys := by
  by_cases h : key ∈ m.keys
  · exact h
  · rw [get?_eq_none_iff.2 h] at found
    cases found

@[simp]
theorem keys_insert (m : OrderedMap κ α) (key : κ) (value : α) :
    (m.insert key value).keys = if key ∈ m.keys then m.keys else m.keys ++ [key] :=
  fst_put key value m.entries

theorem mem_keys_insert {m : OrderedMap κ α} {key other : κ} {value : α} :
    other ∈ (m.insert key value).keys ↔ other = key ∨ other ∈ m.keys := by
  rw [keys_insert]
  split
  · next listed => exact ⟨Or.inr, fun h => h.elim (fun same => same ▸ listed) id⟩
  · rw [List.mem_append, List.mem_singleton, or_comm]

theorem lookup_put (key other : κ) (value : α) (entries : List (κ × α)) :
    lookup other (put key value entries) =
      if other = key then some value else lookup other entries := by
  induction entries with
  | nil =>
      by_cases same : other = key
      · simp [put, lookup, same]
      · have swapped : key ≠ other := fun h => same h.symm
        simp [put, lookup, same, swapped]
  | cons entry rest ih =>
      obtain ⟨k, v⟩ := entry
      by_cases here : k = key
      · by_cases same : other = key
        · simp [put, lookup, here, same]
        · have swapped : key ≠ other := fun h => same h.symm
          simp [put, lookup, here, same, swapped]
      · by_cases same : k = other
        · have apart : other ≠ key := fun h => here (same.trans h)
          simp [put, lookup, same, apart]
        · simp [put, lookup, here, same, ih]

@[simp]
theorem get?_insert (m : OrderedMap κ α) (key other : κ) (value : α) :
    (m.insert key value).get? other = if other = key then some value else m.get? other :=
  lookup_put key other value m.entries

theorem lookup_eq_some_iff {key : κ} {value : α} {entries : List (κ × α)}
    (nodup : (entries.map Prod.fst).Nodup) :
    lookup key entries = some value ↔ (key, value) ∈ entries := by
  induction entries with
  | nil => simp [lookup]
  | cons entry rest ih =>
      obtain ⟨k, v⟩ := entry
      obtain ⟨fresh, distinct⟩ := List.nodup_cons.1 nodup
      by_cases same : k = key
      · subst same
        have absent : (k, value) ∉ rest := fun later =>
          fresh (List.mem_map.2 ⟨_, later, rfl⟩)
        simp [lookup, absent, eq_comm]
      · have other : key ≠ k := fun h => same h.symm
        simp [lookup, same, other, ih distinct]

theorem get?_eq_some_iff {m : OrderedMap κ α} {key : κ} {value : α} :
    m.get? key = some value ↔ (key, value) ∈ m.entries :=
  lookup_eq_some_iff m.nodup

theorem exists_get?_of_mem_keys {m : OrderedMap κ α} {key : κ} (listed : key ∈ m.keys) :
    ∃ value, m.get? key = some value := by
  rw [← Option.ne_none_iff_exists']
  exact fun absent => get?_eq_none_iff.1 absent listed

/-- A key that is there has one entry. -/
theorem filter_entries_of_get? {m : OrderedMap κ α} {key : κ} {value : α}
    (found : m.get? key = some value) : m.entries.filter (·.1 == key) = [(key, value)] := by
  obtain ⟨front, back, split⟩ := List.append_of_mem (get?_eq_some_iff.1 found)
  have distinct := m.nodup
  rw [split, List.map_append, List.map_cons, List.nodup_append, List.nodup_cons] at distinct
  obtain ⟨-, ⟨below, -⟩, apart⟩ := distinct
  have front' : ∀ entry ∈ front, ¬(entry.1 == key) = true := fun entry member same =>
    apart _ (List.mem_map_of_mem member) _ List.mem_cons_self (eq_of_beq same)
  have back' : ∀ entry ∈ back, ¬(entry.1 == key) = true := fun entry member same =>
    below (List.mem_map.2 ⟨entry, member, eq_of_beq same⟩)
  rw [split, List.filter_append, List.filter_eq_nil_iff.2 front', List.nil_append,
    List.filter_cons_of_pos (by simp), List.filter_eq_nil_iff.2 back']

@[simp]
theorem get?_map (f : κ → α → β) (m : OrderedMap κ α) (key : κ) :
    (m.map f).get? key = (m.get? key).map (f key) := by
  refine Option.ext fun value => ?_
  simp only [Option.map_eq_some_iff, get?_eq_some_iff, map, List.mem_map, Prod.mk.injEq]
  constructor
  · rintro ⟨⟨_, own⟩, member, rfl, rfl⟩
    exact ⟨own, member, rfl⟩
  · rintro ⟨own, member, rfl⟩
    exact ⟨(key, own), member, rfl, rfl⟩

@[simp]
theorem get?_filterMap (f : κ → α → Option β) (m : OrderedMap κ α) (key : κ) :
    (m.filterMap f).get? key = (m.get? key).bind (f key) := by
  refine Option.ext fun value => ?_
  simp only [Option.bind_eq_some_iff, get?_eq_some_iff, filterMap, List.mem_filterMap,
    Option.map_eq_some_iff, Prod.mk.injEq]
  constructor
  · rintro ⟨⟨_, own⟩, member, _, kept, rfl, rfl⟩
    exact ⟨own, member, kept⟩
  · rintro ⟨own, member, kept⟩
    exact ⟨(key, own), member, value, kept, rfl, rfl⟩

theorem put_of_notMem {key : κ} {entries : List (κ × α)} (value : α)
    (fresh : key ∉ entries.map Prod.fst) : put key value entries = entries ++ [(key, value)] := by
  induction entries with
  | nil => rfl
  | cons entry rest ih =>
      obtain ⟨k, v⟩ := entry
      simp only [List.map_cons, List.mem_cons, not_or] at fresh
      have other : k ≠ key := fun h => fresh.1 h.symm
      simp [put, other, ih fresh.2]

/-- A new key comes last. -/
theorem entries_insert_of_notMem {m : OrderedMap κ α} {key : κ} (value : α)
    (fresh : key ∉ m.keys) : (m.insert key value).entries = m.entries ++ [(key, value)] :=
  put_of_notMem value fresh

theorem put_eq_self {key : κ} {value : α} {entries : List (κ × α)}
    (found : lookup key entries = some value) : put key value entries = entries := by
  induction entries with
  | nil => cases found
  | cons entry rest ih =>
      obtain ⟨k, v⟩ := entry
      by_cases same : k = key
      · simp_all [put, lookup]
      · simp_all [put, lookup]

/-- To give a key the value that it has changes nothing. -/
theorem insert_eq_self {m : OrderedMap κ α} {key : κ} {value : α}
    (found : m.get? key = some value) : m.insert key value = m :=
  ext (put_eq_self found)

/-! ## Taking out by swapping -/

/-- Takes the first entry with the given key out; the last entry moves into its place. -/
def swapOut (key : κ) : List (κ × α) → List (κ × α)
  | [] => []
  | (k, v) :: rest =>
      if k = key then
        match rest.getLast? with
        | none => []
        | some last => last :: rest.dropLast
      else (k, v) :: swapOut key rest

/-- Up to order, swapping out is plain removal. -/
theorem swapOut_perm {key : κ} {entries : List (κ × α)}
    (nodup : (entries.map Prod.fst).Nodup) :
    (swapOut key entries).Perm (entries.filter (·.1 ≠ key)) := by
  induction entries with
  | nil => simp [swapOut]
  | cons entry rest ih =>
      obtain ⟨k, v⟩ := entry
      obtain ⟨fresh, distinct⟩ := List.nodup_cons.1 nodup
      by_cases same : k = key
      · subst same
        have kept : ((k, v) :: rest).filter (·.1 ≠ k) = rest := by
          rw [List.filter_cons_of_neg (by simp)]
          refine List.filter_eq_self.2 fun later member => ?_
          have apart : later.1 ≠ k := fun h => fresh (List.mem_map.2 ⟨later, member, h⟩)
          simpa using apart
        rw [kept]
        cases final : rest.getLast? with
        | none => simp_all [swapOut]
        | some last =>
            obtain ⟨front, rfl⟩ := List.getLast?_eq_some_iff.1 final
            simpa [swapOut] using (List.perm_append_singleton last front).symm
      · simpa [swapOut, same] using (ih distinct).cons (k, v)

/-- Takes a key out of the map; the last entry moves into its place. -/
def swapRemove (m : OrderedMap κ α) (key : κ) : OrderedMap κ α where
  entries := swapOut key m.entries
  nodup := ((swapOut_perm m.nodup).map Prod.fst).nodup_iff.2 (m.erase key).nodup

@[simp]
theorem get?_swapRemove (m : OrderedMap κ α) (key other : κ) :
    (m.swapRemove key).get? other = if other = key then none else m.get? other := by
  have member (value : α) : (other, value) ∈ (m.swapRemove key).entries ↔
      (other, value) ∈ m.entries ∧ other ≠ key := by
    simpa [swapRemove] using (swapOut_perm m.nodup).mem_iff
  refine Option.ext fun value => ?_
  rw [get?_eq_some_iff, member value]
  by_cases same : other = key <;> simp [same, get?_eq_some_iff]

/-! ## Filling in from another map -/

/-- Keeps every entry of `m` and appends the entries of `n` whose keys `m` lacks. -/
def fillFrom (m n : OrderedMap κ α) : OrderedMap κ α where
  entries := m.entries ++ n.entries.filter (·.1 ∉ m.keys)
  nodup := by
    rw [List.map_append]
    refine List.nodup_append.2 ⟨m.nodup, n.nodup.sublist ((List.filter_sublist).map Prod.fst), ?_⟩
    intro a ha b hb same
    obtain ⟨entry, member, rfl⟩ := List.mem_map.1 hb
    have absent := (List.mem_filter.1 member).2
    simp only [decide_not, Bool.not_eq_true', decide_eq_false_iff_not] at absent
    exact absent (same ▸ ha)

@[simp]
theorem keys_fillFrom (m n : OrderedMap κ α) :
    (m.fillFrom n).keys = m.keys ++ n.keys.filter (· ∉ m.keys) := by
  simp [keys, fillFrom, List.filter_map, Function.comp_def]

theorem forall_mem_fillFrom {m n : OrderedMap κ α} {p : κ × α → Prop}
    (own : ∀ entry ∈ m.entries, p entry) (others : ∀ entry ∈ n.entries, p entry) :
    ∀ entry ∈ (m.fillFrom n).entries, p entry := by
  intro entry listed
  rcases List.mem_append.1 listed with member | member
  · exact own entry member
  · exact others entry (List.mem_filter.1 member).1

@[simp]
theorem fillFrom_empty (m : OrderedMap κ α) : m.fillFrom ∅ = m := by
  apply ext
  simp [fillFrom]

@[simp]
theorem get?_fillFrom (m n : OrderedMap κ α) (key : κ) :
    (m.fillFrom n).get? key = (m.get? key).or (n.get? key) := by
  refine Option.ext fun value => ?_
  cases own : m.get? key with
  | none =>
      have absent : key ∉ m.keys := get?_eq_none_iff.1 own
      have away : (key, value) ∉ m.entries := fun member =>
        absent (List.mem_map.2 ⟨_, member, rfl⟩)
      simp [get?_eq_some_iff, fillFrom, absent, away]
  | some found =>
      have present : key ∈ m.keys := mem_keys_of_get? own
      rw [Option.some_or, ← own]
      simp [get?_eq_some_iff, fillFrom, present]

end OrderedMap

end PartDefs
