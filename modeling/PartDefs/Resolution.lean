import PartDefs.Part
import PartDefs.Traced

/-!
# Resolution

Resolving a set of descriptors gives each part the members of all its ancestors.  Parts are taken in
the order of the file, and a part that is needed as a parent is resolved before its child; each
part is resolved once.  The names whose parents are still being resolved stand on a stack, so a
part that comes up again while it is on the stack closes a cycle.
-/

namespace PartDefs

/-- What can be wrong with a set of descriptors. -/
inductive PartFault where
  /-- A part extends a name that is not declared. -/
  | unknownParent (part parent : String)
  /-- Two parts claim to be the default. -/
  | duplicateDefault (first second : String)
  /-- A part has no events, its ancestors' included. -/
  | noEvents (part : String)
  /-- An entry holds another number of pairs than one. -/
  | malformedEntry (part : String) (location : Location) (found : Nat)
  /-- Parts extend each other in a circle; the first name comes again at the end. -/
  | cyclic (chain : List String)
deriving DecidableEq

/-- How a location is named in messages. -/
def Location.message : Location → String
  | .arguments method => "arguments of method `" ++ method ++ "`"
  | .event name => "event `" ++ name ++ "`"
  | .other words => words

/-- The wording of each fault. -/
def PartFault.message : PartFault → String
  | .unknownParent part parent =>
      "unknown part in extends clause of `" ++ part ++ "`: `" ++ parent ++ "`"
  | .duplicateDefault first second =>
      "`" ++ second ++ "` and `" ++ first ++ "` cannot both be the default part"
  | .noEvents part => "part `" ++ part ++ "` has no events"
  | .malformedEntry part location found =>
      "expected exactly one entry in " ++ location.message ++ " of `" ++ part ++ "`, found " ++
        toString found
  | .cyclic chain => "cyclic inheritance: " ++ " -> ".intercalate chain

/-- All parts with the members they inherit, in the order of the descriptors, and the default
part. -/
structure Resolution where
  parts : OrderedMap String Part
  defaultPart : Option String
deriving DecidableEq

namespace Resolution

/-- How far resolving has come. -/
structure State where
  /-- The names whose parents are being resolved, outermost first. -/
  inProgress : List String
  /-- The parts that are complete, parents before their children. -/
  resolved : OrderedMap String Part
  /-- The part that has claimed to be the default. -/
  defaultPart : Option String

namespace State

/-- Nothing is resolved yet. -/
def initial : State where
  inProgress := []
  resolved := ∅
  defaultPart := none

/-- Puts a name on the stack. -/
def push (state : State) (name : String) : State :=
  { state with inProgress := state.inProgress ++ [name] }

/-- Takes the last name off the stack. -/
def pop (state : State) : State :=
  { state with inProgress := state.inProgress.dropLast }

/-- Notes a complete part. -/
def store (state : State) (name : String) (part : Part) : State :=
  { state with resolved := state.resolved.insert name part }

/-- The names from `name` to the top of the stack, then `name` again. -/
def cycleFrom (state : State) (name : String) : List String :=
  state.inProgress.dropWhile (· ≠ name) ++ [name]

/-- How many declared names are not on the stack. -/
def remaining (state : State) (all : Descriptors) : Nat :=
  (all.keys.filter (· ∉ state.inProgress)).length

/-- A further name from a list leaves fewer names of the list over. -/
theorem length_filter_append_lt {listed names : List String} {name : String}
    (declared : name ∈ listed) (fresh : name ∉ names) :
    (listed.filter (· ∉ names ++ [name])).length < (listed.filter (· ∉ names)).length := by
  have split : listed.filter (· ∉ names ++ [name]) =
      (listed.filter (· ∉ names)).filter (· ≠ name) := by
    rw [List.filter_filter]
    refine List.filter_congr fun key _ => ?_
    simp [and_comm]
  rw [split]
  refine List.length_filter_lt_length_iff_exists.2 ⟨name, ?_, by simp⟩
  exact List.mem_filter.2 ⟨declared, by simpa using fresh⟩

theorem remaining_push_lt {state : State} {all : Descriptors} {name : String}
    (declared : name ∈ all.keys) (fresh : name ∉ state.inProgress) :
    (state.push name).remaining all < state.remaining all :=
  length_filter_append_lt declared fresh

end State

/-- Claims the default for a part if its descriptor says so. -/
def claimDefault (name : String) (descriptor : PartDescriptor) (state : State) :
    Traced PartFault State :=
  if descriptor.isDefault then
    match state.defaultPart with
    | some first => .fail (.duplicateDefault first name)
    | none => do
        Traced.tell (.claimedDefault name)
        return { state with defaultPart := some name }
  else .ok state

/-- The part of a descriptor with its own members, unless one of its entries is malformed. -/
def ownMembers (name : String) (descriptor : PartDescriptor) : Traced PartFault Part :=
  match descriptor.malformed with
  | [] => .ok (descriptor.toPart name)
  | (location, found) :: _ => .fail (.malformedEntry name location found)

/-- Completes a part by the members of its parent, which has been resolved before. -/
def withInherited (descriptor : PartDescriptor) (state : State) (part : Part) :
    Traced PartFault Part :=
  match descriptor.parent with
  | none => .ok part
  | some parent =>
      match state.resolved.get? parent with
      | none => .ok part
      | some above => do
          Traced.tell (.mergedInherited part.name parent)
          return part.inherit above

/-- Completes the part on top of the stack, all its ancestors being complete. -/
def complete (name : String) (descriptor : PartDescriptor) (state : State) :
    Traced PartFault State := do
  let state ← claimDefault name descriptor state
  let own ← ownMembers name descriptor
  let part ← withInherited descriptor state own
  if part.events.isEmpty then Traced.fail (.noEvents name)
  else do
    Traced.tell (.resolved name part.methods.size part.properties.size part.events.size)
    return state.pop.store name part

/-- Resolves a part, and its ancestors before it. -/
def resolvePart (all : Descriptors) (name : String) (descriptor : PartDescriptor)
    (_ : all.get? name = some descriptor) (state : State) : Traced PartFault State :=
  if state.resolved.contains name then .ok state
  else if _ : name ∈ state.inProgress then .fail (.cyclic (state.cycleFrom name))
  else
    match descriptor.parent with
    | none => complete name descriptor (state.push name)
    | some parent =>
        match known : all.get? parent with
        | none => .fail (.unknownParent name parent)
        | some above =>
            (resolvePart all parent above known (state.push name)).bind
              (complete name descriptor)
termination_by state.remaining all
decreasing_by exact State.remaining_push_lt (OrderedMap.mem_keys_of_get? ‹_›) ‹_›

/-- Resolves the parts of the given names one after another, as far as they are declared. -/
def resolveEach (all : Descriptors) (names : List String) (state : State) :
    Traced PartFault State :=
  match names with
  | [] => .ok state
  | name :: names =>
      match declared : all.get? name with
      | none => resolveEach all names state
      | some descriptor =>
          (resolvePart all name descriptor declared state).bind (resolveEach all names)

section Calls

variable {all : Descriptors} {name : String} {descriptor : PartDescriptor} {state : State}

theorem resolvePart_of_resolved (declared : all.get? name = some descriptor)
    (resolved : name ∈ state.resolved.keys) :
    resolvePart all name descriptor declared state = .ok state := by
  rw [resolvePart, if_pos (OrderedMap.contains_iff.2 resolved)]

theorem resolvePart_of_again (declared : all.get? name = some descriptor)
    (unresolved : name ∉ state.resolved.keys) (again : name ∈ state.inProgress) :
    resolvePart all name descriptor declared state = .fail (.cyclic (state.cycleFrom name)) := by
  rw [resolvePart, if_neg (by simpa using unresolved), dif_pos again]

theorem resolvePart_of_root (declared : all.get? name = some descriptor)
    (unresolved : name ∉ state.resolved.keys) (fresh : name ∉ state.inProgress)
    (alone : descriptor.parent = none) :
    resolvePart all name descriptor declared state =
      complete name descriptor (state.push name) := by
  rw [resolvePart, if_neg (by simpa using unresolved), dif_neg fresh]
  simp only [alone]

theorem resolvePart_of_unknown {parent : String} (declared : all.get? name = some descriptor)
    (unresolved : name ∉ state.resolved.keys) (fresh : name ∉ state.inProgress)
    (extend : descriptor.parent = some parent) (unknown : all.get? parent = none) :
    resolvePart all name descriptor declared state = .fail (.unknownParent name parent) := by
  rw [resolvePart, if_neg (by simpa using unresolved), dif_neg fresh]
  simp only [extend]
  split
  · rfl
  · next known => rw [unknown] at known; cases known

theorem resolvePart_of_known {parent : String} {above : PartDescriptor}
    (declared : all.get? name = some descriptor) (unresolved : name ∉ state.resolved.keys)
    (fresh : name ∉ state.inProgress) (extend : descriptor.parent = some parent)
    (known : all.get? parent = some above) :
    resolvePart all name descriptor declared state =
      (resolvePart all parent above known (state.push name)).bind (complete name descriptor) := by
  rw [resolvePart, if_neg (by simpa using unresolved), dif_neg fresh]
  simp only [extend]
  split
  · next unknown => rw [unknown] at known; cases known
  · next other found =>
      obtain rfl := Option.some.inj (found.symm.trans known)
      rfl

theorem resolveEach_of_unknown {names : List String} (unknown : all.get? name = none) :
    resolveEach all (name :: names) state = resolveEach all names state := by
  rw [resolveEach]
  split
  · rfl
  · next known => rw [unknown] at known; cases known

theorem resolveEach_of_known {names : List String} (known : all.get? name = some descriptor) :
    resolveEach all (name :: names) state =
      (resolvePart all name descriptor known state).bind (resolveEach all names) := by
  rw [resolveEach]
  split
  · next unknown => rw [unknown] at known; cases known
  · next other found =>
      obtain rfl := Option.some.inj (found.symm.trans known)
      rfl

/-- The parts of the first names are resolved before those of the others. -/
theorem result_resolveEach_append (front back : List String) (state : State) :
    (resolveEach all (front ++ back) state).result =
      (resolveEach all front state).result.bind fun middle =>
        (resolveEach all back middle).result := by
  induction front generalizing state with
  | nil => rfl
  | cons name front ih =>
      rw [List.cons_append]
      cases found : all.get? name with
      | none => rw [resolveEach_of_unknown found, resolveEach_of_unknown found, ih]
      | some descriptor =>
          rw [resolveEach_of_known found, resolveEach_of_known found, Traced.result_bind,
            Traced.result_bind]
          cases (resolvePart all name descriptor found state).result with
          | error fault => rfl
          | ok middle => exact ih middle

end Calls

/-- Moves the parts of the given names, one name after another, from the memo to the end of a new
map. -/
def drain (names : List String) (memo parts : OrderedMap String Part) : OrderedMap String Part :=
  match names with
  | [] => parts
  | name :: names =>
      match memo.get? name with
      | none => drain names memo parts
      | some part => drain names (memo.swapRemove name) (parts.insert name part)

/-- Draining asks for each name once, so it finds what the memo held at the start, though each
removal puts the rest into another order. -/
theorem entries_drain {names : List String} {memo parts : OrderedMap String Part}
    {start : String → Option Part} (distinct : names.Nodup)
    (apart : ∀ name ∈ names, name ∉ parts.keys)
    (agrees : ∀ name ∈ names, memo.get? name = start name) :
    (drain names memo parts).entries =
      parts.entries ++ names.filterMap fun name => (start name).map (name, ·) := by
  induction names generalizing memo parts with
  | nil => simp [drain]
  | cons name names ih =>
      obtain ⟨fresh, distinct⟩ := List.nodup_cons.1 distinct
      obtain ⟨absent, apart⟩ := List.forall_mem_cons.1 apart
      obtain ⟨here, agrees⟩ := List.forall_mem_cons.1 agrees
      rw [drain, List.filterMap_cons]
      cases found : start name with
      | none =>
          rw [here, found]
          simpa using ih distinct apart agrees
      | some part =>
          have others : ∀ later ∈ names, later ≠ name := fun later member h => fresh (h ▸ member)
          rw [here, found]
          simp only [Option.map_some]
          rw [ih distinct, OrderedMap.entries_insert_of_notMem part absent, List.append_assoc]
          · rfl
          · intro later member
            simp [absent, apart later member, others later member]
          · intro later member
            rw [OrderedMap.get?_swapRemove, if_neg (others later member), agrees later member]

/-- The outcome of a finished run: the resolved parts in the order of the descriptors. -/
def ofState (all : Descriptors) (state : State) : Resolution where
  parts := drain all.keys state.resolved ∅
  defaultPart := state.defaultPart

/-- Draining puts the resolved parts into the order of the descriptors. -/
theorem parts_ofState (all : Descriptors) (state : State) :
    (ofState all state).parts = all.filterMap fun name _ => state.resolved.get? name := by
  apply OrderedMap.ext
  rw [ofState, entries_drain all.nodup_keys (by simp) fun _ _ => rfl]
  rw [OrderedMap.entries_empty, List.nil_append, OrderedMap.keys, List.filterMap_map]
  rfl

end Resolution

/-- Resolves all parts, giving notice of each. -/
def Descriptors.resolveTraced (all : Descriptors) : Traced PartFault Resolution := do
  let state ← Resolution.resolveEach all all.keys .initial
  return Resolution.ofState all state

/-- Resolves all parts. -/
def Descriptors.resolve (all : Descriptors) : Except PartFault Resolution :=
  all.resolveTraced.result

theorem Descriptors.resolve_eq (all : Descriptors) :
    all.resolve = (Resolution.resolveEach all all.keys .initial).result.map
      (Resolution.ofState all) := by
  rw [resolve, resolveTraced, Traced.bind_eq, Traced.result_bind]
  cases (Resolution.resolveEach all all.keys .initial).result <;> rfl

end PartDefs
