import PartDefs.Proofs.Resolution.Completion
import PartDefs.Proofs.Resolution.Witness

/-!
# The invariant of resolution

The names on the stack are declared, distinct and linked, each one extending the next; none of them
is resolved yet.  The resolved parts are closed under taking parents, each results from a complete
line of well formed descriptors, and the default is the flagged part among them.
-/

namespace PartDefs
namespace Resolution
namespace State

/-- What holds of the state between calls. -/
structure Sound (all : Descriptors) (state : State) : Prop where
  /-- No name is twice on the stack. -/
  distinct : state.inProgress.Nodup
  /-- The names on the stack are declared. -/
  declared : ∀ name ∈ state.inProgress, name ∈ all.keys
  /-- Each name on the stack extends the next one. -/
  linked : state.inProgress.IsChain all.Extends
  /-- No name on the stack is resolved. -/
  apart : ∀ name ∈ state.inProgress, name ∉ state.resolved.keys
  /-- A resolved part is what its line yields. -/
  settled : ∀ name part, state.resolved.get? name = some part →
    ∃ line, Settled all name line ∧ part = inheritAlong line
  /-- The parent of a resolved part is resolved. -/
  closed : ∀ child parent, child ∈ state.resolved.keys → all.Extends child parent →
    parent ∈ state.resolved.keys
  /-- The default is the flagged one among the resolved parts. -/
  default_iff : ∀ name,
    state.defaultPart = some name ↔ name ∈ state.resolved.keys ∧ all.Flagged name

/-- A part is on top of the stack and its parent, if it has one, is resolved. -/
structure Ready (all : Descriptors) (state : State) (name : String) (descriptor : PartDescriptor) :
    Prop where
  found : all.get? name = some descriptor
  top : ∃ stack, state.inProgress = stack ++ [name]
  parent : ∀ parent, descriptor.parent = some parent → parent ∈ state.resolved.keys

variable {all : Descriptors} {name : String} {descriptor : PartDescriptor} {state : State}

theorem sound_initial (all : Descriptors) : initial.Sound all where
  distinct := List.nodup_nil
  declared := by simp [initial]
  linked := List.isChain_nil
  apart := by simp [initial]
  settled := by
    intro name part found
    have listed := OrderedMap.mem_keys_of_get? found
    simp [initial] at listed
  closed := by simp [initial]
  default_iff := by simp [initial]

namespace Sound

/-- A declared name that is neither resolved nor on the stack may be put on top if it is what the
top of the stack extends. -/
theorem push (sound : state.Sound all) (declared : name ∈ all.keys)
    (unresolved : name ∉ state.resolved.keys) (fresh : name ∉ state.inProgress)
    (awaited : ∀ top ∈ state.inProgress.getLast?, all.Extends top name) :
    (state.push name).Sound all where
  distinct := by
    refine List.nodup_append.2 ⟨sound.distinct, by simp, ?_⟩
    intro other member last only equal
    obtain rfl := List.mem_singleton.1 only
    exact fresh (equal ▸ member)
  declared := by
    intro other member
    rcases List.mem_append.1 member with member | member
    · exact sound.declared other member
    · rw [List.mem_singleton.1 member]
      exact declared
  linked := by
    refine List.isChain_append.2 ⟨sound.linked, List.isChain_singleton name, ?_⟩
    intro top last other first
    obtain rfl := Option.mem_some.1 first
    exact awaited top last
  apart := by
    intro other member
    rcases List.mem_append.1 member with member | member
    · exact sound.apart other member
    · rw [List.mem_singleton.1 member]
      exact unresolved
  settled := sound.settled
  closed := sound.closed
  default_iff := sound.default_iff

theorem exists_settled (sound : state.Sound all) (resolved : name ∈ state.resolved.keys) :
    ∃ line, Settled all name line := by
  obtain ⟨part, found⟩ := OrderedMap.exists_get?_of_mem_keys resolved
  obtain ⟨line, settled, -⟩ := sound.settled name part found
  exact ⟨line, settled⟩

/-- Only declared parts are resolved. -/
theorem mem_keys (sound : state.Sound all) (resolved : name ∈ state.resolved.keys) :
    name ∈ all.keys := by
  obtain ⟨_, settled⟩ := sound.exists_settled resolved
  exact settled.declared

/-! ## The part on top of the stack -/

theorem unresolved (sound : state.Sound all) (ready : state.Ready all name descriptor) :
    name ∉ state.resolved.keys := by
  obtain ⟨stack, top⟩ := ready.top
  exact sound.apart name (top ▸ List.mem_append_right _ (List.mem_singleton_self name))

/-- All ancestors of the part on top are resolved. -/
theorem mem_resolved_of_transGen {ancestor : String} (sound : state.Sound all)
    (ready : state.Ready all name descriptor)
    (reach : Relation.TransGen all.Extends name ancestor) : ancestor ∈ state.resolved.keys := by
  induction reach with
  | single extend =>
      obtain ⟨_, found, named⟩ := extend
      obtain rfl := Option.some.inj (found.symm.trans ready.found)
      exact ready.parent _ named
  | tail _ extend ih => exact sound.closed _ _ ih extend

theorem ancestorsSettled (sound : state.Sound all) (ready : state.Ready all name descriptor) :
    AncestorsSettled all name where
  acyclic := by
    intro other reach loop
    rcases Relation.reflTransGen_iff_eq_or_transGen.1 reach with rfl | reach
    · exact sound.unresolved ready (sound.mem_resolved_of_transGen ready loop)
    · obtain ⟨line, settled⟩ := sound.exists_settled (sound.mem_resolved_of_transGen ready reach)
      exact settled.lineage.acyclic loop
  settled := by
    intro ancestor reach
    obtain ⟨line, settled⟩ := sound.exists_settled (sound.mem_resolved_of_transGen ready reach)
    exact ⟨settled.declared, line, settled⟩

/-- The part on top is completed by its parent, which has settled. -/
theorem completed_eq_inherit {parent : String} (sound : state.Sound all)
    (ready : state.Ready all name descriptor) (extend : descriptor.parent = some parent) :
    ∃ line, Settled all parent line ∧
      completed name descriptor state.resolved =
        (descriptor.toPart name).inherit (inheritAlong line) := by
  obtain ⟨above, found⟩ := OrderedMap.exists_get?_of_mem_keys (ready.parent parent extend)
  obtain ⟨line, settled, rfl⟩ := sound.settled parent above found
  exact ⟨line, settled, by simp [completed, extend, found]⟩

/-- The part on top, completed, is what its line yields. -/
theorem settled_completed (sound : state.Sound all) (ready : state.Ready all name descriptor)
    (wellFormed : descriptor.WellFormed)
    (events : (completed name descriptor state.resolved).events.entries ≠ []) :
    ∃ line, Settled all name line ∧
      completed name descriptor state.resolved = inheritAlong line := by
  cases extend : descriptor.parent with
  | none =>
      have plain : completed name descriptor state.resolved = descriptor.toPart name := by
        simp [completed, extend]
      rw [plain] at events ⊢
      exact ⟨_, .root ready.found extend wellFormed events, (inheritAlong_singleton _ _).symm⟩
  | some parent =>
      obtain ⟨line, settled, merged⟩ := sound.completed_eq_inherit ready extend
      exact ⟨_, .child ready.found extend wellFormed settled, merged⟩

/-- Only a part without parent can be left without events. -/
theorem eq_none_of_events_eq_nil (sound : state.Sound all) (ready : state.Ready all name descriptor)
    (empty : (completed name descriptor state.resolved).events.entries = []) :
    descriptor.parent = none ∧ descriptor.events.entries = [] := by
  cases extend : descriptor.parent with
  | none => simpa [completed, extend, PartDescriptor.toPart, OrderedMap.map] using empty
  | some parent =>
      obtain ⟨line, settled, merged⟩ := sound.completed_eq_inherit ready extend
      rw [merged] at empty
      exact absurd empty (Part.events_inherit_ne_nil settled.events)

/-- Completing the part on top keeps the invariant. -/
theorem advance (sound : state.Sound all) (ready : state.Ready all name descriptor)
    (free : descriptor.isDefault = true → state.defaultPart = none)
    (wellFormed : descriptor.WellFormed)
    (events : (completed name descriptor state.resolved).events.entries ≠ []) :
    (state.advance name descriptor).Sound all := by
  obtain ⟨stack, top⟩ := ready.top
  have popped : (state.advance name descriptor).inProgress = stack := by
    simp [State.advance, top]
  have below : stack <+: state.inProgress := top ▸ List.prefix_append stack [name]
  have unresolved := sound.unresolved ready
  constructor
  case distinct => exact popped ▸ sound.distinct.sublist below.sublist
  case declared => exact popped ▸ fun other member => sound.declared other (below.subset member)
  case linked => exact popped ▸ sound.linked.prefix below
  case apart =>
    rw [popped]
    intro other member resolved
    rcases OrderedMap.mem_keys_insert.1 resolved with rfl | resolved
    · have distinct := top ▸ sound.distinct
      exact (List.nodup_append.1 distinct).2.2 _ member _ (List.mem_singleton_self _) rfl
    · exact sound.apart other (below.subset member) resolved
  case settled =>
    intro other part found
    simp only [State.advance, OrderedMap.get?_insert] at found
    split at found
    · next same =>
        obtain ⟨line, settled, merged⟩ := sound.settled_completed ready wellFormed events
        exact ⟨line, same ▸ settled, Option.some.inj found ▸ merged⟩
    · exact sound.settled other part found
  case closed =>
    intro child parent resolved extend
    refine OrderedMap.mem_keys_insert.2 (Or.inr ?_)
    rcases OrderedMap.mem_keys_insert.1 resolved with rfl | resolved
    · exact sound.mem_resolved_of_transGen ready (.single extend)
    · exact sound.closed child parent resolved extend
  case default_iff =>
    intro other
    have former := sound.default_iff other
    simp only [State.advance, OrderedMap.mem_keys_insert]
    cases flag : descriptor.isDefault with
    | false =>
        have plain : ¬all.Flagged name := by
          rintro ⟨_, found, flagged⟩
          obtain rfl := Option.some.inj (found.symm.trans ready.found)
          simp [flag] at flagged
        rw [if_neg (by simp), former]
        constructor
        · rintro ⟨resolved, flagged⟩
          exact ⟨Or.inr resolved, flagged⟩
        · rintro ⟨rfl | resolved, flagged⟩
          · exact absurd flagged plain
          · exact ⟨resolved, flagged⟩
    | true =>
        have flagged : all.Flagged name := ⟨descriptor, ready.found, flag⟩
        rw [free flag] at former
        rw [if_pos rfl]
        constructor
        · intro same
          obtain rfl := Option.some.inj same
          exact ⟨Or.inl rfl, flagged⟩
        · rintro ⟨rfl | resolved, claims⟩
          · rfl
          · exact absurd (former.2 ⟨resolved, claims⟩) (by simp)

/-! ## Faults -/

theorem witnessed_of_completes {fault : PartFault} (sound : state.Sound all)
    (ready : state.Ready all name descriptor)
    (failed : Completes name descriptor state (.error fault)) : fault.Witnessed all := by
  have ancestors := sound.ancestorsSettled ready
  cases failed with
  | duplicateDefault flag taken =>
      obtain ⟨resolved, flagged⟩ := (sound.default_iff _).1 taken
      have apart : _ ≠ name := fun same => sound.unresolved ready (same ▸ resolved)
      exact ⟨apart, flagged, ⟨descriptor, ready.found, flag⟩, ancestors⟩
  | malformedEntry _ faults =>
      have first := PartDescriptor.firstMalformed_of_malformed faults
      exact ⟨⟨descriptor, ready.found, first⟩, ancestors⟩
  | noEvents _ _ empty =>
      obtain ⟨alone, none⟩ := sound.eq_none_of_events_eq_nil ready empty
      exact ⟨⟨descriptor, ready.found, alone, none⟩, ancestors⟩

/-- A name that comes again while it is on the stack closes a cycle. -/
theorem witnessed_cyclic (sound : state.Sound all) (again : name ∈ state.inProgress)
    (awaited : ∀ top ∈ state.inProgress.getLast?, all.Extends top name) :
    (PartFault.cyclic (state.cycleFrom name)).Witnessed all := by
  obtain ⟨before, after, split, outside⟩ := List.eq_append_cons_of_mem again
  have cycle : name :: after <:+ state.inProgress := split ▸ List.suffix_append before _
  have cut : state.cycleFrom name = name :: after ++ [name] := by
    have passed : ∀ other ∈ before, decide (other ≠ name) = true := fun other member =>
      decide_eq_true fun same => outside (same ▸ member)
    rw [cycleFrom, split, List.dropWhile_append_of_pos passed, List.dropWhile_cons_of_neg (by simp)]
  rw [cut]
  refine ⟨by simp, List.getLast?_concat.symm, ?_, ?_, ?_⟩
  · rw [List.dropLast_concat]
    exact sound.distinct.sublist cycle.sublist
  · rw [List.dropLast_concat]
    exact fun other member => sound.declared other (cycle.subset member)
  · refine List.isChain_append.2 ⟨sound.linked.suffix cycle, List.isChain_singleton name, ?_⟩
    intro top last other first
    obtain rfl := Option.mem_some.1 first
    refine awaited top ?_
    rw [split, List.getLast?_append_cons]
    exact last

end Sound
end State

end Resolution
end PartDefs
