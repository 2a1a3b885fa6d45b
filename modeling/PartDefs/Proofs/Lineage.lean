import Mathlib.Logic.Relation
import PartDefs.Proofs.Entries
import PartDefs.Proofs.Overlay

/-!
# Lineages

A part extends at most one other, so its ancestors form a line.  The line is finite exactly when it
ends in a part that extends nothing; then no part on it is its own ancestor.  The part that results
from a line has, for each kind of member, the overlay of what the parts on the line declare.
-/

namespace PartDefs

/-- A part by its name, with its descriptor. -/
abbrev Link := String × PartDescriptor

namespace Descriptors

/-- A declared part names its parent, which itself need not be declared. -/
def Extends (all : Descriptors) (child parent : String) : Prop :=
  ∃ descriptor, all.get? child = some descriptor ∧ descriptor.parent = some parent

/-- A declared part claims to be the default. -/
def Flagged (all : Descriptors) (name : String) : Prop :=
  ∃ descriptor, all.get? name = some descriptor ∧ descriptor.isDefault = true

/-- A part and its ancestors with their descriptors, nearest first, up to one without parent. -/
inductive Lineage (all : Descriptors) : String → List Link → Prop where
  | root {name : String} {descriptor : PartDescriptor} :
      all.get? name = some descriptor →
      descriptor.parent = none →
      Lineage all name [(name, descriptor)]
  | child {name parent : String} {descriptor : PartDescriptor}
      {line : List Link} :
      all.get? name = some descriptor →
      descriptor.parent = some parent →
      Lineage all parent line →
      Lineage all name ((name, descriptor) :: line)

variable {all : Descriptors} {name : String} {line : List Link}

theorem Extends.mem_keys {child parent : String} (extend : all.Extends child parent) :
    child ∈ all.keys := by
  obtain ⟨_, found, _⟩ := extend
  exact OrderedMap.mem_keys_of_get? found

theorem Flagged.mem_keys (flagged : all.Flagged name) : name ∈ all.keys := by
  obtain ⟨_, found, _⟩ := flagged
  exact OrderedMap.mem_keys_of_get? found

namespace Lineage

/-- The line starts with the part itself. -/
theorem exists_cons (lineage : all.Lineage name line) :
    ∃ descriptor ancestors, all.get? name = some descriptor ∧
      line = (name, descriptor) :: ancestors := by
  cases lineage with
  | root found _ => exact ⟨_, _, found, rfl⟩
  | child found _ _ => exact ⟨_, _, found, rfl⟩

/-- A line consists of declared parts. -/
theorem mem_entries (lineage : all.Lineage name line) : ∀ link ∈ line, link ∈ all.entries := by
  induction lineage with
  | root found _ =>
      intro link member
      rw [List.mem_singleton.1 member]
      exact OrderedMap.get?_eq_some_iff.1 found
  | child found _ _ ih =>
      intro link member
      rcases List.mem_cons.1 member with rfl | member
      · exact OrderedMap.get?_eq_some_iff.1 found
      · exact ih link member

/-- A part has one line only. -/
theorem unique {other : List Link} (lineage : all.Lineage name line)
    (again : all.Lineage name other) : line = other := by
  induction lineage generalizing other with
  | root found alone =>
      cases again with
      | root found' _ => rw [Option.some.inj (found.symm.trans found')]
      | child found' extend _ =>
          rw [← Option.some.inj (found.symm.trans found'), alone] at extend
          cases extend
  | child found extend _ ih =>
      cases again with
      | root found' alone =>
          rw [← Option.some.inj (found.symm.trans found'), extend] at alone
          cases alone
      | child found' extend' later =>
          obtain rfl := Option.some.inj (found.symm.trans found')
          obtain rfl := Option.some.inj (extend.symm.trans extend')
          rw [ih later]

/-- The parent's line is what follows the part itself. -/
theorem parent {above : String} (lineage : all.Lineage name line)
    (extend : all.Extends name above) :
    ∃ link rest, line = link :: rest ∧ all.Lineage above rest := by
  obtain ⟨descriptor, found, named⟩ := extend
  cases lineage with
  | root found' alone =>
      rw [← Option.some.inj (found.symm.trans found'), named] at alone
      cases alone
  | child found' named' later =>
      obtain rfl := Option.some.inj (found.symm.trans found')
      obtain rfl := Option.some.inj (named.symm.trans named')
      exact ⟨_, _, rfl, later⟩

/-- Every ancestor has a shorter line. -/
theorem ancestor {above : String} (lineage : all.Lineage name line)
    (reach : Relation.TransGen all.Extends name above) :
    ∃ rest, all.Lineage above rest ∧ rest.length < line.length := by
  induction reach with
  | single extend =>
      obtain ⟨link, rest, rfl, later⟩ := lineage.parent extend
      exact ⟨rest, later, Nat.lt_succ_self _⟩
  | tail _ extend ih =>
      obtain ⟨middle, between, shorter⟩ := ih
      obtain ⟨link, rest, rfl, later⟩ := between.parent extend
      exact ⟨rest, later, Nat.lt_trans (Nat.lt_succ_self _) shorter⟩

/-- A part with a line is not its own ancestor. -/
theorem acyclic (lineage : all.Lineage name line) :
    ¬Relation.TransGen all.Extends name name := by
  intro loop
  obtain ⟨again, lineage', shorter⟩ := lineage.ancestor loop
  rw [lineage.unique lineage'] at shorter
  exact Nat.lt_irrefl _ shorter

end Lineage

end Descriptors

/-! ## The part that results from a line -/

/-- The first part of a line, completed by the ones after it. -/
def inheritAlong : List Link → Part
  | [] => ⟨"", ∅, ∅, ∅⟩
  | (name, descriptor) :: ancestors => (descriptor.toPart name).inherit (inheritAlong ancestors)

theorem inheritAlong_singleton (name : String) (descriptor : PartDescriptor) :
    inheritAlong [(name, descriptor)] = descriptor.toPart name := by
  simp [inheritAlong, Part.inherit]

theorem methods_inheritAlong (line : List Link) :
    (inheritAlong line).methods = OrderedMap.overlay
      ((line.map (·.2.methods)).map (·.map MethodDescriptor.toMethod)) := by
  induction line with
  | nil => rfl
  | cons link line ih => simp [inheritAlong, Part.inherit, PartDescriptor.toPart, ih]

theorem properties_inheritAlong (line : List Link) :
    (inheritAlong line).properties = OrderedMap.overlay (line.map (·.2.properties)) := by
  induction line with
  | nil => rfl
  | cons link line ih => simp [inheritAlong, Part.inherit, PartDescriptor.toPart, ih]

theorem events_inheritAlong (line : List Link) :
    (inheritAlong line).events = OrderedMap.overlay
      ((line.map (·.2.events)).map (·.map fun _ entries => entries.filterMap Entry.param?)) := by
  induction line with
  | nil => rfl
  | cons link line ih => simp [inheritAlong, Part.inherit, PartDescriptor.toPart, ih]

/-- A part takes over events, so it has some when one of its ancestors has. -/
theorem Part.events_inherit_ne_nil {part above : Part} (inherited : above.events.entries ≠ []) :
    (part.inherit above).events.entries ≠ [] := by
  obtain ⟨event, member⟩ := List.exists_mem_of_ne_nil _ inherited
  have taken : event.1 ∈ (part.inherit above).events.keys :=
    OrderedMap.mem_keys_fillFrom.2 (Or.inr (List.mem_map_of_mem member))
  intro empty
  rw [OrderedMap.keys, empty] at taken
  cases taken

end PartDefs
