import PartDefs.OrderedMap

/-!
# Overlays

Ordered maps laid over each other, the first on top: each map is completed from the ones below it.
Completing a map from another is associative and idempotent, so layers may be merged one after
another or all together.  However many layers there are, the result lists every key where it first
occurs and gives it the value of the first layer that has one.
-/

namespace PartDefs

/-! ## First occurrences -/

theorem eraseDups_of_nodup {α : Type} [BEq α] [LawfulBEq α] {items : List α}
    (distinct : items.Nodup) : items.eraseDups = items := by
  induction items with
  | nil => rfl
  | cons item items ih =>
      obtain ⟨fresh, distinct⟩ := List.nodup_cons.1 distinct
      have kept : items.filter (fun other => !other == item) = items := by
        refine List.filter_eq_self.2 fun other member => ?_
        have apart : other ≠ item := fun same => fresh (same ▸ member)
        simpa using apart
      rw [List.eraseDups_cons, kept, ih distinct]

/-- Selecting and keeping first occurrences may be exchanged. -/
theorem eraseDups_filter {α : Type} [BEq α] [LawfulBEq α] (p : α → Bool) :
    ∀ items : List α, (items.filter p).eraseDups = items.eraseDups.filter p
  | [] => rfl
  | item :: items => by
      have shorter : (items.filter fun other => !other == item).length < items.length + 1 :=
        Nat.lt_succ_of_le (List.length_filter_le _ _)
      rw [List.eraseDups_cons, List.filter_cons]
      by_cases selected : p item
      · rw [if_pos selected, List.eraseDups_cons, List.filter_cons, if_pos selected,
          ← eraseDups_filter p (items.filter fun other => !other == item)]
        simp only [List.filter_filter, Bool.and_comm]
      · -- The copies of an item that is not selected are not selected either.
        have dropped : items.filter p = (items.filter fun other => !other == item).filter p := by
          rw [List.filter_filter]
          refine List.filter_congr fun other _ => ?_
          by_cases same : other = item
          · simp [same, selected]
          · simp [same]
        rw [if_neg selected, List.filter_cons, if_neg selected, dropped,
          eraseDups_filter p (items.filter fun other => !other == item)]
termination_by items => items.length

namespace OrderedMap

variable {κ α : Type} [DecidableEq κ]

/-! ## Filling in -/

theorem entries_fillFrom (m n : OrderedMap κ α) :
    (m.fillFrom n).entries = m.entries ++ n.entries.filter (·.1 ∉ m.keys) :=
  rfl

theorem mem_keys_fillFrom {m n : OrderedMap κ α} {key : κ} :
    key ∈ (m.fillFrom n).keys ↔ key ∈ m.keys ∨ key ∈ n.keys := by
  rw [keys_fillFrom, List.mem_append, List.mem_filter, decide_eq_true_iff]
  by_cases own : key ∈ m.keys <;> simp [own]

@[simp]
theorem empty_fillFrom (m : OrderedMap κ α) : (∅ : OrderedMap κ α).fillFrom m = m := by
  apply ext
  simp [entries_fillFrom]

/-- A map takes nothing from another whose keys it has. -/
theorem fillFrom_eq_self {m n : OrderedMap κ α} (covered : ∀ key ∈ n.keys, key ∈ m.keys) :
    m.fillFrom n = m := by
  have nothing : n.entries.filter (·.1 ∉ m.keys) = [] := by
    refine List.filter_eq_nil_iff.2 fun entry member => ?_
    simpa using covered entry.1 (List.mem_map_of_mem member)
  apply ext
  rw [entries_fillFrom, nothing, List.append_nil]

/-- Of three maps, the last two may be merged first. -/
theorem fillFrom_assoc (m n o : OrderedMap κ α) :
    (m.fillFrom n).fillFrom o = m.fillFrom (n.fillFrom o) := by
  have missing : o.entries.filter (·.1 ∉ (m.fillFrom n).keys) =
      (o.entries.filter (·.1 ∉ n.keys)).filter (·.1 ∉ m.keys) := by
    rw [List.filter_filter]
    refine List.filter_congr fun entry _ => ?_
    rw [← Bool.decide_and, decide_eq_decide, mem_keys_fillFrom, not_or]
  apply ext
  rw [entries_fillFrom, missing, entries_fillFrom, entries_fillFrom, entries_fillFrom,
    List.filter_append, List.append_assoc]

/-- Gives a key a value unless it has one. -/
def insertNew (m : OrderedMap κ α) (entry : κ × α) : OrderedMap κ α :=
  if m.contains entry.1 then m else m.insert entry.1 entry.2

/-- Entries with distinct keys that are taken one after another are kept if the map had no value
for their keys before. -/
theorem entries_foldl_insertNew (m : OrderedMap κ α) {entries : List (κ × α)}
    (distinct : (entries.map Prod.fst).Nodup) :
    (entries.foldl insertNew m).entries = m.entries ++ entries.filter (·.1 ∉ m.keys) := by
  induction entries generalizing m with
  | nil => simp
  | cons entry rest ih =>
      obtain ⟨fresh, distinct⟩ := List.nodup_cons.1 distinct
      rw [List.foldl_cons, ih _ distinct, insertNew]
      by_cases present : entry.1 ∈ m.keys
      · rw [if_pos (contains_iff.2 present), List.filter_cons_of_neg (by simpa using present)]
      · -- The entry is added, but no later entry has its key.
        have later : rest.filter (·.1 ∉ (m.insert entry.1 entry.2).keys) =
            rest.filter (·.1 ∉ m.keys) := by
          refine List.filter_congr fun other member => ?_
          have apart : other.1 ≠ entry.1 := fun same =>
            fresh (same ▸ List.mem_map_of_mem member)
          rw [decide_eq_decide, mem_keys_insert, or_iff_right apart]
        rw [if_neg (mt contains_iff.1 present), later, entries_insert_of_notMem _ present,
          List.filter_cons_of_pos (by simpa using present), List.append_assoc,
          List.singleton_append]

/-- Filling in takes the entries of the other map one after another, and tests each key against the
map as it has grown. -/
theorem fillFrom_eq_foldl (m n : OrderedMap κ α) : m.fillFrom n = n.entries.foldl insertNew m :=
  ext (entries_foldl_insertNew m n.nodup).symm

/-! ## Layers of maps -/

/-- The first map, completed by the maps after it. -/
def overlay (layers : List (OrderedMap κ α)) : OrderedMap κ α :=
  layers.foldr fillFrom ∅

@[simp]
theorem overlay_nil : overlay ([] : List (OrderedMap κ α)) = ∅ :=
  rfl

@[simp]
theorem overlay_cons (top : OrderedMap κ α) (below : List (OrderedMap κ α)) :
    overlay (top :: below) = top.fillFrom (overlay below) :=
  rfl

/-- Merging the layers one after another, the first one first, is the same as merging their
overlay. -/
theorem foldl_fillFrom (m : OrderedMap κ α) (layers : List (OrderedMap κ α)) :
    layers.foldl fillFrom m = m.fillFrom (overlay layers) := by
  induction layers generalizing m with
  | nil => exact (fillFrom_empty m).symm
  | cons top below ih => rw [List.foldl_cons, ih, overlay_cons, fillFrom_assoc]

/-- An overlay lists the keys of its layers, each where it first occurs. -/
theorem keys_overlay (layers : List (OrderedMap κ α)) :
    (overlay layers).keys = (layers.flatMap keys).eraseDups := by
  induction layers with
  | nil => rfl
  | cons top below ih =>
      rw [overlay_cons, keys_fillFrom, ih, List.flatMap_cons, List.eraseDups_append,
        eraseDups_of_nodup top.nodup_keys]
      congr 1
      rw [List.removeAll, eraseDups_filter]
      simp

/-- An overlay takes each value from the first layer that has one. -/
theorem get?_overlay (layers : List (OrderedMap κ α)) (key : κ) :
    (overlay layers).get? key = layers.findSome? (·.get? key) := by
  induction layers with
  | nil => rfl
  | cons top below ih =>
      rw [overlay_cons, get?_fillFrom, ih, List.findSome?_cons]
      cases top.get? key <;> rfl

/-- Filling in, which takes entry after entry, is associative and idempotent.  The empty map is
neutral on both sides, and a map that has been taken once gives nothing more.  So any number of
layers may be merged one after another or as one map. -/
theorem fillFrom_laws (m n o : OrderedMap κ α) (layers : List (OrderedMap κ α)) :
    m.fillFrom n = n.entries.foldl insertNew m ∧
    (m.fillFrom n).fillFrom o = m.fillFrom (n.fillFrom o) ∧
    m.fillFrom m = m ∧
    (m.fillFrom n).fillFrom m = m.fillFrom n ∧
    (m.fillFrom n).fillFrom n = m.fillFrom n ∧
    m.fillFrom ∅ = m ∧
    (∅ : OrderedMap κ α).fillFrom m = m ∧
    layers.foldl fillFrom m = m.fillFrom (overlay layers) := by
  refine ⟨fillFrom_eq_foldl m n, fillFrom_assoc m n o, ?_, ?_, ?_, fillFrom_empty m,
    empty_fillFrom m, foldl_fillFrom m layers⟩
  · exact fillFrom_eq_self fun _ => id
  · exact fillFrom_eq_self fun _ own => mem_keys_fillFrom.2 (Or.inl own)
  · exact fillFrom_eq_self fun _ taken => mem_keys_fillFrom.2 (Or.inr taken)

end OrderedMap

end PartDefs
