import PartDefs.Part

/-!
# The entries that are checked

A descriptor is well formed when every entry that it declares holds exactly one pair, those of
`Configure` excepted.  The entries are checked in a fixed order, so that a fault names the first
one that is out of shape; from a well formed list every parameter is read.
-/

namespace PartDefs

/-! ## Reading parameters -/

/-- The parameters are the single pairs of the entries, in order. -/
def Spells (entries : List Entry) (params : List Param) : Prop :=
  entries.map OrderedMap.entries = params.map fun param => [(param.name, param.type)]

theorem Entry.exists_param_of_size {entry : Entry} (single : entry.size = 1) :
    ∃ param, entry.param? = some param ∧ entry.entries = [(param.name, param.type)] := by
  obtain ⟨pairs, nodup⟩ := entry
  obtain ⟨⟨name, type⟩, rfl⟩ := List.length_eq_one_iff.1 single
  exact ⟨⟨name, type⟩, rfl, rfl⟩

/-- From entries with one pair each, no pair is lost. -/
theorem spells_filterMap {entries : List Entry} (single : ∀ entry ∈ entries, entry.size = 1) :
    Spells entries (entries.filterMap Entry.param?) := by
  induction entries with
  | nil => rfl
  | cons entry entries ih =>
      obtain ⟨here, later⟩ := List.forall_mem_cons.1 single
      obtain ⟨param, found, pairs⟩ := Entry.exists_param_of_size here
      have rest := ih later
      rw [Spells] at rest ⊢
      rw [List.filterMap_cons, found, List.map_cons, List.map_cons, pairs, rest]

/-! ## The order of checks -/

/-- The entries of one list, each with its place. -/
def placed (location : Location) (entries : List Entry) : List (Location × Entry) :=
  entries.map (location, ·)

/-- The malformed ones among placed entries, by location and size. -/
def faulty (items : List (Location × Entry)) : List (Location × Nat) :=
  (items.filter (·.2.isMalformed)).map fun item => (item.1, item.2.size)

theorem faulty_append (first second : List (Location × Entry)) :
    faulty (first ++ second) = faulty first ++ faulty second := by
  simp [faulty]

theorem faulty_placed (location : Location) (entries : List Entry) :
    faulty (placed location entries) = malformedEntries location entries := by
  simp [faulty, placed, malformedEntries, List.filter_map, Function.comp_def]

theorem faulty_flatMap {α : Type} (declared : List α) (entriesOf : α → List (Location × Entry)) :
    faulty (declared.flatMap entriesOf) = declared.flatMap fun item => faulty (entriesOf item) := by
  induction declared with
  | nil => rfl
  | cons item declared ih => rw [List.flatMap_cons, faulty_append, ih, List.flatMap_cons]

namespace PartDescriptor

/-- The entries that count, methods before events. -/
def checked (descriptor : PartDescriptor) : List (Location × Entry) :=
  ((descriptor.methods.entries.filter (·.1 ≠ configureName)).flatMap fun method =>
    placed (.arguments method.1) method.2.arguments) ++
  descriptor.events.entries.flatMap fun event => placed (.event event.1) event.2

/-- Every entry that counts holds exactly one pair. -/
structure WellFormed (descriptor : PartDescriptor) : Prop where
  /-- The entries of the methods other than `Configure`. -/
  arguments : ∀ method ∈ descriptor.methods.entries, method.1 ≠ configureName →
    ∀ entry ∈ method.2.arguments, entry.size = 1
  /-- The entries of the events. -/
  events : ∀ event ∈ descriptor.events.entries, ∀ entry ∈ event.2, entry.size = 1

theorem wellFormed_iff {descriptor : PartDescriptor} :
    descriptor.WellFormed ↔ ∀ item ∈ descriptor.checked, item.2.size = 1 := by
  constructor
  · rintro ⟨arguments, events⟩ ⟨location, entry⟩ member
    rcases List.mem_append.1 member with member | member
    · obtain ⟨method, own, placed⟩ := List.mem_flatMap.1 member
      obtain ⟨declared, other⟩ := List.mem_filter.1 own
      obtain ⟨_, given, same⟩ := List.mem_map.1 placed
      obtain ⟨-, rfl⟩ := Prod.mk.inj same
      exact arguments method declared (of_decide_eq_true other) _ given
    · obtain ⟨event, declared, placed⟩ := List.mem_flatMap.1 member
      obtain ⟨_, given, same⟩ := List.mem_map.1 placed
      obtain ⟨-, rfl⟩ := Prod.mk.inj same
      exact events event declared _ given
  · intro single
    constructor
    · intro method declared other entry given
      refine single (.arguments method.1, entry) (List.mem_append_left _ ?_)
      have kept : method ∈ descriptor.methods.entries.filter (·.1 ≠ configureName) :=
        List.mem_filter.2 ⟨declared, decide_eq_true other⟩
      exact List.mem_flatMap.2 ⟨method, kept, List.mem_map_of_mem given⟩
    · intro event declared entry given
      refine single (.event event.1, entry) (List.mem_append_right _ ?_)
      exact List.mem_flatMap.2 ⟨event, declared, List.mem_map_of_mem given⟩

/-- The malformed entries are found among the checked ones, in their order. -/
theorem malformed_eq (descriptor : PartDescriptor) :
    descriptor.malformed = faulty descriptor.checked := by
  have skipped (declared : List (String × MethodDescriptor)) :
      faulty ((declared.filter (·.1 ≠ configureName)).flatMap fun method =>
        placed (.arguments method.1) method.2.arguments) =
      declared.flatMap fun method => if method.1 = configureName then []
        else malformedEntries (.arguments method.1) method.2.arguments := by
    induction declared with
    | nil => rfl
    | cons method declared ih =>
        rw [List.flatMap_cons, ← ih]
        by_cases configure : method.1 = configureName
        · rw [List.filter_cons_of_neg (by simpa using configure), if_pos configure, List.nil_append]
        · rw [List.filter_cons_of_pos (by simpa using configure), if_neg configure,
            List.flatMap_cons, faulty_append, faulty_placed]
  rw [malformed, checked, faulty_append, skipped, faulty_flatMap]
  simp only [faulty_placed]

theorem malformed_eq_nil_iff {descriptor : PartDescriptor} :
    descriptor.malformed = [] ↔ descriptor.WellFormed := by
  rw [malformed_eq, faulty, List.map_eq_nil_iff, List.filter_eq_nil_iff, wellFormed_iff]
  simp [Entry.isMalformed]

/-- An entry of the wrong size, all entries checked before it being in shape. -/
def FirstMalformed (descriptor : PartDescriptor) (location : Location) (found : Nat) : Prop :=
  ∃ before entry after, descriptor.checked = before ++ (location, entry) :: after ∧
    (∀ item ∈ before, item.2.size = 1) ∧ entry.size = found ∧ found ≠ 1

theorem firstMalformed_of_malformed {descriptor : PartDescriptor} {location : Location}
    {found : Nat} {later : List (Location × Nat)}
    (faults : descriptor.malformed = (location, found) :: later) :
    descriptor.FirstMalformed location found := by
  rw [malformed_eq, faulty, List.map_eq_cons_iff] at faults
  obtain ⟨⟨_, entry⟩, others, first, same, -⟩ := faults
  obtain ⟨rfl, rfl⟩ := Prod.mk.inj same
  obtain ⟨before, after, split, sound, wrong, -⟩ := List.filter_eq_cons_iff.1 first
  refine ⟨before, entry, after, split, ?_, rfl, of_decide_eq_true wrong⟩
  intro item member
  simpa [Entry.isMalformed] using sound item member

end PartDescriptor

end PartDefs
