import PartDefs.Proofs.Resolution.Invariant

/-!
# The walk over all parts

Every call of the resolver keeps the invariant or reports a witnessed fault.  A call that succeeds
leaves the stack and the parts resolved before as they were, and resolves its own name.
-/

namespace PartDefs
namespace Resolution

/-- What a call for some names leaves of the state that it finds. -/
structure State.Reaches (all : Descriptors) (names : List String) (before after : State) :
    Prop where
  sound : after.Sound all
  stack : after.inProgress = before.inProgress
  /-- What was resolved stays as it is. -/
  kept : ∀ other part, before.resolved.get? other = some part →
    after.resolved.get? other = some part
  /-- The names are resolved, as far as they are declared. -/
  added : ∀ name ∈ names, name ∈ all.keys → name ∈ after.resolved.keys

/-- A call leads to a state as described or to a witnessed fault. -/
def Delivers (all : Descriptors) (names : List String) (before : State) :
    Except PartFault State → Prop
  | .ok after => before.Reaches all names after
  | .error fault => fault.Witnessed all

variable {all : Descriptors} {name : String} {descriptor : PartDescriptor} {state : State}

/-- A sound state reaches itself for names that are resolved or not declared. -/
theorem State.Reaches.refl {names : List String} (sound : state.Sound all)
    (nothing : ∀ name ∈ names, name ∈ all.keys → name ∈ state.resolved.keys) :
    state.Reaches all names state :=
  ⟨sound, Eq.refl _, fun _ _ found => found, nothing⟩

theorem State.Reaches.trans {names later : List String} {before middle after : State}
    (first : before.Reaches all names middle) (second : middle.Reaches all later after) :
    before.Reaches all (names ++ later) after where
  sound := second.sound
  stack := second.stack.trans first.stack
  kept other part found := second.kept other part (first.kept other part found)
  added := by
    intro name member declared
    rcases List.mem_append.1 member with member | member
    · obtain ⟨part, found⟩ := OrderedMap.exists_get?_of_mem_keys (first.added name member declared)
      exact OrderedMap.mem_keys_of_get? (second.kept name part found)
    · exact second.added name member declared

/-- Calls one after another deliver together. -/
theorem Delivers.bind {names later : List String} {first : Except PartFault State}
    {next : State → Except PartFault State} (delivers : Delivers all names state first)
    (goesOn : ∀ middle, state.Reaches all names middle → Delivers all later middle (next middle)) :
    Delivers all (names ++ later) state (first.bind next) := by
  cases first with
  | error fault => exact delivers
  | ok middle =>
      have rest := goesOn middle delivers
      rw [Except.bind]
      generalize next middle = outcome at rest
      cases outcome with
      | error fault => exact rest
      | ok after => exact State.Reaches.trans delivers rest

/-- Completing the part on top of the stack takes it off again. -/
theorem complete_delivers {pushed : State} (sound : pushed.Sound all)
    (ready : pushed.Ready all name descriptor)
    (stack : pushed.inProgress = state.inProgress ++ [name])
    (kept : ∀ other part, state.resolved.get? other = some part →
      pushed.resolved.get? other = some part) :
    Delivers all [name] state (complete name descriptor pushed).result := by
  have outcome := completes_result name descriptor pushed
  generalize (complete name descriptor pushed).result = result at outcome
  cases result with
  | error fault => exact sound.witnessed_of_completes ready outcome
  | ok after =>
      cases outcome with
      | done free faultless events =>
          have wellFormed := PartDescriptor.malformed_eq_nil_iff.1 faultless
          refine ⟨sound.advance ready free wellFormed events, ?_, ?_, ?_⟩
          · simp [State.advance, stack]
          · intro other part found
            have held := kept other part found
            have apart : other ≠ name := by
              rintro rfl
              exact sound.unresolved ready (OrderedMap.mem_keys_of_get? held)
            simp [State.advance, apart, held]
          · intro other member _
            rw [List.mem_singleton.1 member]
            exact OrderedMap.mem_keys_insert.2 (Or.inl rfl)

/-! ## Calls -/

/-- A part that extends nothing can be completed at once. -/
theorem State.ready_push (declared : all.get? name = some descriptor)
    (alone : descriptor.parent = none) : (state.push name).Ready all name descriptor :=
  ⟨declared, ⟨state.inProgress, rfl⟩, by simp [alone]⟩

/-- A part on top of the stack awaits its parent. -/
theorem State.extends_of_getLast?_push {parent : String}
    (declared : all.get? name = some descriptor) (extend : descriptor.parent = some parent) :
    ∀ top ∈ (state.push name).inProgress.getLast?, all.Extends top parent := by
  intro top last
  have same : top = name := by simpa [State.push, eq_comm] using last
  exact same ▸ ⟨descriptor, declared, extend⟩

/-- After the call for its parent a part can be completed. -/
theorem State.Reaches.ready {parent : String} {after : State}
    (reached : (state.push name).Reaches all [parent] after)
    (declared : all.get? name = some descriptor) (extend : descriptor.parent = some parent)
    (known : parent ∈ all.keys) : after.Ready all name descriptor := by
  refine ⟨declared, ⟨state.inProgress, reached.stack⟩, fun other named => ?_⟩
  rw [← Option.some.inj (extend.symm.trans named)]
  exact reached.added parent (List.mem_singleton_self _) known

/-- A call for a name that the top of the stack extends delivers. -/
theorem resolvePart_delivers (declared : all.get? name = some descriptor) (sound : state.Sound all)
    (awaited : ∀ top ∈ state.inProgress.getLast?, all.Extends top name) :
    Delivers all [name] state (resolvePart all name descriptor declared state).result := by
  fun_induction resolvePart all name descriptor declared state with
  | case1 name descriptor declared state resolved =>
      refine State.Reaches.refl sound fun other member _ => ?_
      rw [List.mem_singleton.1 member]
      exact OrderedMap.contains_iff.1 resolved
  | case2 name descriptor declared state unresolved again =>
      exact sound.witnessed_cyclic again awaited
  | case3 name descriptor declared state unresolved fresh alone =>
      have pushed := sound.push (OrderedMap.mem_keys_of_get? declared)
        (by simpa using unresolved) fresh awaited
      exact complete_delivers pushed (State.ready_push declared alone) rfl fun _ _ found => found
  | case4 name descriptor declared state unresolved fresh parent extend unknown =>
      exact ⟨⟨descriptor, declared, extend⟩, OrderedMap.get?_eq_none_iff.1 unknown⟩
  | case5 name descriptor declared state unresolved fresh parent extend above known ih =>
      have pushed := sound.push (OrderedMap.mem_keys_of_get? declared)
        (by simpa using unresolved) fresh awaited
      have inner := ih pushed (State.extends_of_getLast?_push declared extend)
      rw [Traced.result_bind]
      cases outcome : (resolvePart all parent above known (state.push name)).result with
      | error fault =>
          rw [outcome] at inner
          exact inner
      | ok after =>
          rw [outcome] at inner
          have ready := inner.ready declared extend (OrderedMap.mem_keys_of_get? known)
          exact complete_delivers inner.sound ready inner.stack inner.kept

/-- Calls for several names, one after another, deliver when the stack is empty. -/
theorem resolveEach_delivers {names : List String} (sound : state.Sound all)
    (idle : state.inProgress = []) :
    Delivers all names state (resolveEach all names state).result := by
  induction names generalizing state with
  | nil => exact State.Reaches.refl sound (by simp)
  | cons name names ih =>
      cases declared : all.get? name with
      | none =>
          rw [resolveEach_of_unknown declared]
          have skipped : Delivers all [name] state (.ok state) := by
            refine State.Reaches.refl sound fun other member listed => ?_
            rw [List.mem_singleton.1 member] at listed
            exact absurd listed (OrderedMap.get?_eq_none_iff.1 declared)
          exact skipped.bind fun middle first => ih first.sound (first.stack.trans idle)
      | some descriptor =>
          have first := resolvePart_delivers declared sound (by simp [idle])
          rw [resolveEach_of_known declared, Traced.result_bind]
          exact first.bind fun middle reached => ih reached.sound (reached.stack.trans idle)

/-- A run from the start ends with all parts resolved, or with a witnessed fault. -/
theorem resolveAll_delivers (all : Descriptors) :
    Delivers all all.keys .initial (resolveEach all all.keys .initial).result :=
  resolveEach_delivers (State.sound_initial all) rfl

end Resolution
end PartDefs
