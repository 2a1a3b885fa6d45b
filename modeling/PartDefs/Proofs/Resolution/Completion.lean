import PartDefs.Resolution

/-!
# Completing one part

What completing the part on top of the stack can come to.  It reports one of three faults or leads
to one known next state; everything else about resolution rests on this list of outcomes.
-/

namespace PartDefs
namespace Resolution

/-- A part with its own members and those of its parent, as far as the parent is resolved. -/
def completed (name : String) (descriptor : PartDescriptor) (resolved : OrderedMap String Part) :
    Part :=
  match descriptor.parent.bind resolved.get? with
  | none => descriptor.toPart name
  | some above => (descriptor.toPart name).inherit above

/-- The state after a part has been completed. -/
def State.advance (state : State) (name : String) (descriptor : PartDescriptor) : State where
  inProgress := state.inProgress.dropLast
  resolved := state.resolved.insert name (completed name descriptor state.resolved)
  defaultPart := if descriptor.isDefault then some name else state.defaultPart

/-- What completing a part can come to, each outcome with the checks passed before. -/
inductive Completes (name : String) (descriptor : PartDescriptor) (state : State) :
    Except PartFault State → Prop where
  | duplicateDefault {first : String} :
      descriptor.isDefault = true →
      state.defaultPart = some first →
      Completes name descriptor state (.error (.duplicateDefault first name))
  | malformedEntry {location : Location} {found : Nat} {later : List (Location × Nat)} :
      (descriptor.isDefault = true → state.defaultPart = none) →
      descriptor.malformed = (location, found) :: later →
      Completes name descriptor state (.error (.malformedEntry name location found))
  | noEvents :
      (descriptor.isDefault = true → state.defaultPart = none) →
      descriptor.malformed = [] →
      (completed name descriptor state.resolved).events.entries = [] →
      Completes name descriptor state (.error (.noEvents name))
  | done :
      (descriptor.isDefault = true → state.defaultPart = none) →
      descriptor.malformed = [] →
      (completed name descriptor state.resolved).events.entries ≠ [] →
      Completes name descriptor state (.ok (state.advance name descriptor))

/-- The notice that a part claims to be the default, if its descriptor says so. -/
def claim (name : String) (descriptor : PartDescriptor) : List Notice :=
  if descriptor.isDefault then [.claimedDefault name] else []

/-- A claim succeeds unless a part has claimed before. -/
theorem claimDefault_of_free {name : String} {descriptor : PartDescriptor} {state : State}
    (free : descriptor.isDefault = true → state.defaultPart = none) :
    claimDefault name descriptor state = ⟨claim name descriptor, .ok
      { state with
        defaultPart := if descriptor.isDefault then some name else state.defaultPart }⟩ := by
  cases flag : descriptor.isDefault with
  | false => simp [claimDefault, claim, flag, Traced.ok]
  | true => simp [claimDefault, claim, flag, free flag, Traced.bind, Traced.tell, Traced.ok]

theorem claimDefault_of_taken {name first : String} {descriptor : PartDescriptor} {state : State}
    (flag : descriptor.isDefault = true) (taken : state.defaultPart = some first) :
    claimDefault name descriptor state = .fail (.duplicateDefault first name) := by
  simp [claimDefault, flag, taken]

variable (name : String) (descriptor : PartDescriptor) (state : State)

theorem result_withInherited :
    (withInherited descriptor state (descriptor.toPart name)).result =
      .ok (completed name descriptor state.resolved) := by
  cases extend : descriptor.parent with
  | none => simp [withInherited, completed, extend, Traced.ok]
  | some parent =>
      cases found : state.resolved.get? parent with
      | none => simp [withInherited, completed, extend, found, Traced.ok]
      | some above =>
          simp [withInherited, completed, extend, found, Traced.bind, Traced.tell, Traced.ok]

/-- Every outcome of completing a part is on the list. -/
theorem completes_result :
    Completes name descriptor state (complete name descriptor state).result := by
  simp only [complete, Traced.bind_eq, Traced.result_bind]
  by_cases free : descriptor.isDefault = true → state.defaultPart = none
  · rw [claimDefault_of_free free]
    simp only [Except.bind]
    cases faults : descriptor.malformed with
    | cons fault later =>
        obtain ⟨location, found⟩ := fault
        simpa [ownMembers, faults, Traced.fail, Except.bind] using
          Completes.malformedEntry free faults
    | nil =>
        simp only [ownMembers, faults, Traced.ok, result_withInherited]
        by_cases events : (completed name descriptor state.resolved).events.entries = []
        · have empty : (completed name descriptor state.resolved).events.isEmpty = true :=
            OrderedMap.isEmpty_iff.2 events
          simpa [empty, Traced.fail] using Completes.noEvents free faults events
        · have present : (completed name descriptor state.resolved).events.isEmpty = false :=
            Bool.eq_false_iff.2 fun empty => events (OrderedMap.isEmpty_iff.1 empty)
          simpa [present, Traced.bind, Traced.tell, Traced.ok, State.advance, State.pop,
            State.store] using Completes.done free faults events
  · obtain ⟨flag, taken⟩ := Classical.not_imp.1 free
    obtain ⟨first, taken⟩ := Option.ne_none_iff_exists'.1 taken
    rw [claimDefault_of_taken flag taken]
    exact .duplicateDefault flag taken

end Resolution
end PartDefs
