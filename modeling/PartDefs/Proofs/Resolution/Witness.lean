import Mathlib.Data.List.Chain
import PartDefs.Proofs.Lineage
import PartDefs.Resolution

/-!
# What a fault says about the descriptors

Each fault points at a defect that is really there.  A cycle is given whole, and an unknown parent
as it is named.  The other three faults blame one part, and all ancestors of that part are in order.
-/

namespace PartDefs

/-- A part has a complete line of well formed descriptors, which yields at least one event. -/
structure Settled (all : Descriptors) (name : String) (line : List Link) :
    Prop where
  /-- The line runs from the part to one without parent. -/
  lineage : all.Lineage name line
  /-- No descriptor on the line has a malformed entry. -/
  wellFormed : ∀ link ∈ line, link.2.WellFormed
  /-- There are events after merging. -/
  events : (inheritAlong line).events.entries ≠ []

/-- All strict ancestors of a part are declared, without cycle and without faults of their own. -/
structure AncestorsSettled (all : Descriptors) (part : String) : Prop where
  acyclic : ∀ other, Relation.ReflTransGen all.Extends part other →
    ¬Relation.TransGen all.Extends other other
  settled : ∀ ancestor, Relation.TransGen all.Extends part ancestor →
    ancestor ∈ all.keys ∧ ∃ line, Settled all ancestor line

/-- What the descriptors are like when a fault is reported. -/
def PartFault.Witnessed (all : Descriptors) : PartFault → Prop
  | unknownParent part parent => all.Extends part parent ∧ parent ∉ all.keys
  | duplicateDefault first second =>
      first ≠ second ∧ all.Flagged first ∧ all.Flagged second ∧ AncestorsSettled all second
  | noEvents part =>
      (∃ descriptor, all.get? part = some descriptor ∧ descriptor.parent = none ∧
        descriptor.events.entries = []) ∧ AncestorsSettled all part
  | malformedEntry part location found =>
      (∃ descriptor, all.get? part = some descriptor ∧
        descriptor.FirstMalformed location found) ∧ AncestorsSettled all part
  | cyclic chain =>
      2 ≤ chain.length ∧ chain.head? = chain.getLast? ∧ chain.dropLast.Nodup ∧
        (∀ name ∈ chain.dropLast, name ∈ all.keys) ∧ chain.IsChain all.Extends

namespace Settled

variable {all : Descriptors} {name : String} {descriptor : PartDescriptor}
  {line : List Link}

/-- A well formed part without parent is settled as soon as it has events. -/
theorem root (found : all.get? name = some descriptor) (alone : descriptor.parent = none)
    (wellFormed : descriptor.WellFormed) (events : (descriptor.toPart name).events.entries ≠ []) :
    Settled all name [(name, descriptor)] where
  lineage := .root found alone
  wellFormed := by simpa using wellFormed
  events := by rwa [inheritAlong_singleton]

/-- A well formed part below a settled one is settled. -/
theorem child {parent : String} (found : all.get? name = some descriptor)
    (extend : descriptor.parent = some parent) (wellFormed : descriptor.WellFormed)
    (above : Settled all parent line) : Settled all name ((name, descriptor) :: line) where
  lineage := .child found extend above.lineage
  wellFormed := List.forall_mem_cons.2 ⟨wellFormed, above.wellFormed⟩
  events := Part.events_inherit_ne_nil above.events

theorem declared (settled : Settled all name line) : name ∈ all.keys := by
  obtain ⟨_, _, found, -⟩ := settled.lineage.exists_cons
  exact OrderedMap.mem_keys_of_get? found

theorem wellFormed_self (settled : Settled all name line)
    (found : all.get? name = some descriptor) : descriptor.WellFormed := by
  obtain ⟨_, ancestors, found', rfl⟩ := settled.lineage.exists_cons
  obtain rfl := Option.some.inj (found'.symm.trans found)
  exact settled.wellFormed _ List.mem_cons_self

theorem events_of_root (settled : Settled all name line) (found : all.get? name = some descriptor)
    (alone : descriptor.parent = none) : descriptor.events.entries ≠ [] := by
  obtain rfl := settled.lineage.unique (.root found alone)
  have events := settled.events
  rw [inheritAlong_singleton] at events
  intro empty
  exact events (by simp [PartDescriptor.toPart, OrderedMap.map, empty])

end Settled

end PartDefs
