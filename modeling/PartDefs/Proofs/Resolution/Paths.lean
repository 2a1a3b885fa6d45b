import PartDefs.Proofs.Lineage
import PartDefs.Proofs.Resolution.Completion

/-!
# Resolution by explicit paths

A second resolver without recursion through the parts: for each part that is not done it writes
down the path of its ancestors up to one that is done or extends nothing, and then finishes the
parts of the path from the far end.  It gives the same result as the first one on every mapping,
whatever is wrong with it.
-/

namespace PartDefs

/-- What the resolver has finished. -/
structure Ledger where
  done : OrderedMap String Part
  defaultPart : Option String

/-- Lengthens a path, the last part of which is given, by one ancestor after another. -/
def climb (all : Descriptors) (done : OrderedMap String Part) (path : List Link) (last : Link) :
    Except PartFault (List Link) :=
  match last.2.parent with
  | none => .ok path
  | some parent =>
      match _known : all.get? parent with
      | none => .error (.unknownParent last.1 parent)
      | some above =>
          if done.contains parent then .ok path
          else if _ : parent ∈ path.map Prod.fst then
            .error (.cyclic ((path.map Prod.fst).dropWhile (· ≠ parent) ++ [parent]))
          else climb all done (path ++ [(parent, above)]) (parent, above)
termination_by (all.keys.filter (· ∉ path.map Prod.fst)).length
decreasing_by
  rw [List.map_append]
  exact Resolution.State.length_filter_append_lt (OrderedMap.mem_keys_of_get? _known) ‹_›

namespace Ledger

/-- Claims the default for a part that is flagged. -/
def claim (ledger : Ledger) (link : Link) : Except PartFault Ledger :=
  match link.2.isDefault, ledger.defaultPart with
  | false, _ => .ok ledger
  | true, none => .ok { ledger with defaultPart := some link.1 }
  | true, some first => .error (.duplicateDefault first link.1)

/-- Finishes a part whose parent, if it has one, is done. -/
def finish (ledger : Ledger) (link : Link) : Except PartFault Ledger := do
  let ledger ← ledger.claim link
  match link.2.checked.find? (·.2.size ≠ 1) with
  | some (location, entry) => throw (.malformedEntry link.1 location entry.size)
  | none =>
      let own := link.2.toPart link.1
      let part :=
        match link.2.parent.bind ledger.done.get? with
        | none => own
        | some above => own.inherit above
      if part.events.isEmpty then throw (.noEvents link.1)
      else return { ledger with done := ledger.done.insert link.1 part }

/-- Finishes a part and those of its ancestors that are not done. -/
def visit (all : Descriptors) (ledger : Ledger) (link : Link) : Except PartFault Ledger :=
  if ledger.done.contains link.1 then .ok ledger
  else do
    let path ← climb all ledger.done [link] link
    path.reverse.foldlM finish ledger

end Ledger

/-- Resolves all parts by paths. -/
def Descriptors.resolveByPaths (all : Descriptors) : Except PartFault Resolution := do
  let ledger ← all.entries.foldlM (Ledger.visit all) ⟨∅, none⟩
  return ⟨all.filterMap fun name _ => ledger.done.get? name, ledger.defaultPart⟩

/-! ## Finishing one part -/

namespace Ledger

/-- A ledger with the names of the parts on the stack. -/
def toState (ledger : Ledger) (stack : List String) : Resolution.State :=
  ⟨stack, ledger.done, ledger.defaultPart⟩

end Ledger

/-- What a state has finished. -/
def Resolution.State.ledger (state : State) : Ledger :=
  ⟨state.resolved, state.defaultPart⟩

/-- The search for an entry of the wrong size stops at the first malformed one. -/
theorem PartDescriptor.find?_checked (descriptor : PartDescriptor) :
    (descriptor.checked.find? (·.2.size ≠ 1)).map (fun item => (item.1, item.2.size)) =
      descriptor.malformed.head? := by
  rw [malformed_eq, faulty, List.head?_map, List.head?_filter]
  rfl

theorem Ledger.claim_of_free {ledger : Ledger} {name : String} {descriptor : PartDescriptor}
    (free : descriptor.isDefault = true → ledger.defaultPart = none) :
    ledger.claim (name, descriptor) = .ok
      { ledger with
        defaultPart := if descriptor.isDefault then some name else ledger.defaultPart } := by
  cases flag : descriptor.isDefault with
  | false => simp [claim, flag]
  | true => simp [claim, flag, free flag]

theorem Ledger.finish_of_free {ledger : Ledger} {name : String} {descriptor : PartDescriptor}
    (free : descriptor.isDefault = true → ledger.defaultPart = none)
    (sound : descriptor.checked.find? (·.2.size ≠ 1) = none) :
    ledger.finish (name, descriptor) =
      if (Resolution.completed name descriptor ledger.done).events.isEmpty then
        .error (.noEvents name)
      else
        .ok
          { done := ledger.done.insert name (Resolution.completed name descriptor ledger.done)
            defaultPart := if descriptor.isDefault then some name else ledger.defaultPart } := by
  rw [finish, claim_of_free free]
  simp only [bind, Except.bind, sound]
  rfl

/-- Completing the part on top of the stack finishes it and takes it off. -/
theorem Resolution.result_complete (name : String) (descriptor : PartDescriptor) (state : State) :
    (complete name descriptor state).result =
      (state.ledger.finish (name, descriptor)).map (·.toState state.inProgress.dropLast) := by
  have outcome := completes_result name descriptor state
  generalize (complete name descriptor state).result = result at outcome
  have search := descriptor.find?_checked
  cases outcome with
  | @duplicateDefault first flag taken =>
      have refused : state.ledger.claim (name, descriptor) =
          .error (.duplicateDefault first name) := by
        simp [Ledger.claim, State.ledger, flag, taken]
      rw [Ledger.finish, refused]
      rfl
  | malformedEntry free faults =>
      rw [faults, List.head?_cons] at search
      obtain ⟨⟨_, entry⟩, first, same⟩ := Option.map_eq_some_iff.1 search
      obtain ⟨rfl, rfl⟩ := Prod.mk.inj same
      rw [Ledger.finish, Ledger.claim_of_free free]
      simp only [first, bind, Except.bind]
      rfl
  | noEvents free faultless empty =>
      rw [faultless, List.head?_nil, Option.map_eq_none_iff] at search
      have bare : (completed name descriptor state.ledger.done).events.isEmpty = true :=
        OrderedMap.isEmpty_iff.2 empty
      rw [Ledger.finish_of_free free search, if_pos bare]
      rfl
  | done free faultless events =>
      rw [faultless, List.head?_nil, Option.map_eq_none_iff] at search
      have present : ¬(completed name descriptor state.ledger.done).events.isEmpty = true :=
        fun empty => events (OrderedMap.isEmpty_iff.1 empty)
      rw [Ledger.finish_of_free free search, if_neg present]
      rfl

/-! ## Climbing -/

section Climb

variable {all : Descriptors} {done : OrderedMap String Part} {path whole : List Link}
  {last : Link} {parent : String} {above : PartDescriptor}

theorem climb_of_root (alone : last.2.parent = none) : climb all done path last = .ok path := by
  rw [climb, alone]

theorem climb_of_unknown (extend : last.2.parent = some parent) (unknown : all.get? parent = none) :
    climb all done path last = .error (.unknownParent last.1 parent) := by
  rw [climb]
  simp only [extend]
  split
  · rfl
  · next known => rw [unknown] at known; cases known

theorem climb_of_known (extend : last.2.parent = some parent)
    (known : all.get? parent = some above) :
    climb all done path last =
      if done.contains parent then .ok path
      else if parent ∈ path.map Prod.fst then
        .error (.cyclic ((path.map Prod.fst).dropWhile (· ≠ parent) ++ [parent]))
      else climb all done (path ++ [(parent, above)]) (parent, above) := by
  rw [climb]
  simp only [extend]
  split
  · next unknown => rw [unknown] at known; cases known
  · next other found =>
      obtain rfl := Option.some.inj (found.symm.trans known)
      rfl

/-- A path is only ever lengthened. -/
theorem prefix_of_climb (success : climb all done path last = .ok whole) : path <+: whole := by
  fun_induction climb all done path last with
  | case1 => exact Except.ok.inj success ▸ List.prefix_rfl
  | case2 => cases success
  | case3 => exact Except.ok.inj success ▸ List.prefix_rfl
  | case4 => cases success
  | case5 path last parent extend above known unresolved fresh ih =>
      exact (List.prefix_append path _).trans (ih success)

end Climb

/-! ## Descending -/

namespace Resolution

variable {all : Descriptors} {name : String} {descriptor : PartDescriptor} {state : State}

/-- Climbing from a part and finishing the new part of the path from its end. -/
def descend (all : Descriptors) (state : State) (below : List Link) (link : Link) :
    Except PartFault State :=
  (climb all state.resolved (below ++ [link]) link).bind fun path =>
    ((path.drop below.length).reverse.foldlM Ledger.finish state.ledger).map
      (·.toState state.inProgress)

/-- A path that ends at the part itself finishes this part alone. -/
theorem descend_of_stop {below : List Link} {link : Link}
    (stop : climb all state.resolved (below ++ [link]) link = .ok (below ++ [link])) :
    descend all state below link = (state.ledger.finish link).map (·.toState state.inProgress) := by
  rw [descend, stop]
  simp [Except.bind]

/-- A path that goes on to the parent finishes the parent's path first. -/
theorem descend_of_child {below : List Link} {link : Link} {parent : String}
    {above : PartDescriptor}
    (goesOn : climb all state.resolved (below ++ [link]) link =
      climb all state.resolved (below ++ [link] ++ [(parent, above)]) (parent, above)) :
    descend all state below link =
      (descend all (state.push link.1) (below ++ [link]) (parent, above)).bind fun after =>
        (after.ledger.finish link).map (·.toState after.inProgress.dropLast) := by
  rw [descend, goesOn, descend]
  change Except.bind (climb all state.resolved _ _) _ =
    Except.bind (Except.bind (climb all state.resolved _ _) _) _
  cases climbed :
      climb all state.resolved (below ++ [link] ++ [(parent, above)]) (parent, above) with
  | error fault => rfl
  | ok path =>
      obtain ⟨rest, rfl⟩ := prefix_of_climb climbed
      have new : (below ++ [link] ++ [(parent, above)] ++ rest).drop below.length =
          link :: (parent, above) :: rest := by
        rw [List.append_assoc, List.append_assoc, List.drop_left]
        rfl
      have newer : (below ++ [link] ++ [(parent, above)] ++ rest).drop (below ++ [link]).length =
          (parent, above) :: rest := by
        rw [List.append_assoc, List.drop_left]
        rfl
      simp only [Except.bind, new, newer]
      rw [List.reverse_cons, List.foldlM_append]
      change _ = Except.bind (Except.map _ (List.foldlM Ledger.finish state.ledger _)) _
      cases List.foldlM Ledger.finish state.ledger ((parent, above) :: rest).reverse with
      | error fault => rfl
      | ok ledger =>
          have popped : (state.push link.1).inProgress.dropLast = state.inProgress :=
            List.dropLast_concat
          change Except.map _ (List.foldlM Ledger.finish ledger [link]) =
            Except.map (·.toState (state.push link.1).inProgress.dropLast) (ledger.finish link)
          rw [popped, List.foldlM_cons]
          simp only [List.foldlM_nil, bind_pure]

/-- A call for a part that is neither done nor on the stack climbs and descends once. -/
theorem result_resolvePart {below : List Link} (declared : all.get? name = some descriptor)
    (stack : state.inProgress = below.map Prod.fst) (unresolved : name ∉ state.resolved.keys)
    (fresh : name ∉ state.inProgress) :
    (resolvePart all name descriptor declared state).result =
      descend all state below (name, descriptor) := by
  fun_induction resolvePart all name descriptor declared state generalizing below with
  | case1 name descriptor declared state resolved =>
      exact absurd (OrderedMap.contains_iff.1 resolved) unresolved
  | case2 name descriptor declared state _ again => exact absurd again fresh
  | case3 name descriptor declared state _ _ alone =>
      rw [result_complete, descend_of_stop (climb_of_root alone)]
      simp [State.push, State.ledger]
  | case4 name descriptor declared state _ _ parent extend unknown =>
      rw [descend, climb_of_unknown extend unknown]
      rfl
  | case5 name descriptor declared state _ _ parent extend above known ih =>
      have pushed :
          (state.push name).inProgress = (below ++ [(name, descriptor)]).map Prod.fst := by
        simp [State.push, stack]
      have step : climb all state.resolved (below ++ [(name, descriptor)]) (name, descriptor) = _ :=
        climb_of_known extend known
      by_cases resolved : parent ∈ (state.push name).resolved.keys
      · have hit : state.resolved.contains parent = true := OrderedMap.contains_iff.2 resolved
        rw [if_pos hit] at step
        rw [resolvePart_of_resolved known resolved, Traced.bind_ok, result_complete,
          descend_of_stop step]
        simp [State.push, State.ledger]
      · have missed : ¬state.resolved.contains parent = true :=
          fun hit => resolved (OrderedMap.contains_iff.1 hit)
        rw [if_neg missed] at step
        by_cases again : parent ∈ (state.push name).inProgress
        · rw [if_pos (pushed ▸ again), ← pushed] at step
          rw [resolvePart_of_again known resolved again, Traced.bind_fail, descend, step]
          rfl
        · rw [if_neg (pushed ▸ again)] at step
          rw [Traced.result_bind, ih pushed resolved again, descend_of_child step]
          simp only [result_complete]

/-! ## The whole run -/

/-- With an empty stack, a call visits the part. -/
theorem result_resolvePart_of_idle (declared : all.get? name = some descriptor)
    (idle : state.inProgress = []) :
    (resolvePart all name descriptor declared state).result =
      (state.ledger.visit all (name, descriptor)).map (·.toState []) := by
  rw [Ledger.visit]
  by_cases resolved : name ∈ state.resolved.keys
  · have hit : state.ledger.done.contains name = true := OrderedMap.contains_iff.2 resolved
    rw [resolvePart_of_resolved declared resolved, if_pos hit, ← idle]
    rfl
  · have missed : ¬state.ledger.done.contains name = true :=
      fun hit => resolved (OrderedMap.contains_iff.1 hit)
    have stack : state.inProgress = ([] : List Link).map Prod.fst := idle
    rw [result_resolvePart declared stack resolved (by simp [idle]), if_neg missed, descend, idle]
    change Except.bind (climb all state.resolved [(name, descriptor)] _) _ =
      Except.map _ (Except.bind (climb all state.resolved [(name, descriptor)] _) _)
    cases climb all state.resolved [(name, descriptor)] (name, descriptor) <;> rfl

/-- The runs over all parts go in step. -/
theorem result_resolveEach {entries : List Link} (idle : state.inProgress = [])
    (listed : ∀ link ∈ entries, all.get? link.1 = some link.2) :
    (resolveEach all (entries.map Prod.fst) state).result =
      (entries.foldlM (Ledger.visit all) state.ledger).map (·.toState []) := by
  induction entries generalizing state with
  | nil =>
      rw [List.map_nil, resolveEach, ← idle]
      rfl
  | cons link entries ih =>
      obtain ⟨declared, later⟩ := List.forall_mem_cons.1 listed
      rw [List.map_cons, resolveEach_of_known declared, Traced.result_bind,
        result_resolvePart_of_idle declared idle, List.foldlM_cons]
      change _ = Except.map _ (Except.bind (state.ledger.visit all link) _)
      cases state.ledger.visit all link with
      | error fault => rfl
      | ok ledger => exact ih rfl later

end Resolution

/-- Both resolvers give the same result on every mapping, faults included. -/
theorem Descriptors.resolve_eq_resolveByPaths (all : Descriptors) :
    all.resolve = all.resolveByPaths := by
  have listed : ∀ link ∈ all.entries, all.get? link.1 = some link.2 :=
    fun link member => OrderedMap.get?_eq_some_iff.2 member
  rw [resolve_eq, resolveByPaths, OrderedMap.keys, Resolution.result_resolveEach rfl listed]
  change _ = Except.bind (List.foldlM (Ledger.visit all) Resolution.State.initial.ledger _) _
  cases List.foldlM (Ledger.visit all) Resolution.State.initial.ledger all.entries with
  | error fault => rfl
  | ok ledger =>
      have parts := Resolution.parts_ofState all (ledger.toState [])
      change Except.ok (Resolution.mk (Resolution.ofState all (ledger.toState [])).parts _) = _
      rw [parts]
      rfl

end PartDefs
