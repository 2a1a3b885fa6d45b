import Mathlib.Data.List.Perm.Subperm
import PartDefs.Proofs.Resolution.Members
import PartDefs.Proofs.Resolution.Moments

/-!
# Calls in order

Whenever a call begins or returns, the names in progress are those of the calls that wait, so that
each call takes off the stack what it has put there, and finds its parent resolved.  As no name is
twice in progress, every nested call leaves fewer names to be put on the stack, and the nesting of
calls is bounded by the number of parts.
-/

namespace PartDefs
namespace Resolution

/-- The calls that wait while a part is resolved, the innermost first.  That one waits for the part,
which is its parent, and each of the others waits in this way for the one before it. -/
inductive Awaits (all : Descriptors) : String → List Link → Prop where
  | nobody {name : String} : Awaits all name []
  | child {name child : String} {descriptor : PartDescriptor} {waiting : List Link} :
      all.get? child = some descriptor →
      descriptor.parent = some name →
      Awaits all child waiting →
      Awaits all name ((child, descriptor) :: waiting)

/-- The names of the calls that wait, outermost first. -/
def stackOf (waiting : List Link) : List String :=
  (waiting.map Prod.fst).reverse

theorem stackOf_cons (link : Link) (waiting : List Link) :
    stackOf (link :: waiting) = stackOf waiting ++ [link.1] := by
  simp [stackOf]

theorem length_stackOf (waiting : List Link) : (stackOf waiting).length = waiting.length := by
  simp [stackOf]

/-- What holds of the state whenever a call begins or returns. -/
structure InOrder (all : Descriptors) (waiting : List Link) (state : State) : Prop
    extends state.Sound all where
  /-- Only declared parts are resolved. -/
  known : ∀ name ∈ state.resolved.keys, name ∈ all.keys
  /-- Every resolved part has an event. -/
  events : ∀ name part, state.resolved.get? name = some part → part.events.entries ≠ []
  /-- The names in progress are those of the calls that wait. -/
  stack : state.inProgress = stackOf waiting

variable {all : Descriptors} {name : String} {descriptor : PartDescriptor} {waiting : List Link}
  {names : List String} {state : State}

theorem State.Sound.inOrder (sound : state.Sound all) (stack : state.inProgress = stackOf waiting) :
    InOrder all waiting state where
  toSound := sound
  known _ := sound.mem_keys
  events := by
    intro name part found
    obtain ⟨line, settled, rfl⟩ := sound.settled name part found
    exact settled.events
  stack := stack

/-- Distinct declared names are no more than there are parts. -/
theorem State.Sound.length_le (sound : state.Sound all)
    (stack : state.inProgress = stackOf waiting) : waiting.length ≤ all.size := by
  rw [← length_stackOf, ← stack, ← OrderedMap.length_keys]
  exact (sound.distinct.subperm sound.declared).length_le

/-- The top of the stack extends the part whose call it waits for. -/
theorem Awaits.extends_of_getLast? (awaits : Awaits all name waiting)
    (stack : state.inProgress = stackOf waiting) :
    ∀ top ∈ state.inProgress.getLast?, all.Extends top name := by
  intro top last
  rw [stack] at last
  cases awaits with
  | nobody => cases last
  | child found extend _ =>
      rw [stackOf_cons, List.getLast?_concat] at last
      obtain rfl := Option.mem_some.1 last
      exact ⟨_, found, extend⟩

/-! ## What every moment keeps -/

/-- The moments that a run can come to. -/
inductive Moment.Steady (all : Descriptors) : Moment → Prop where
  | between {names : List String} {state : State} :
      state.Sound all →
      state.inProgress = [] →
      Steady all (.between names state)
  | enters {name : String} {descriptor : PartDescriptor} {waiting : List Link}
      {names : List String} {state : State} :
      state.Sound all →
      state.inProgress = stackOf waiting →
      all.get? name = some descriptor →
      Awaits all name waiting →
      Steady all (.enters name descriptor waiting names state)
  | returns {name : String} {waiting : List Link} {names : List String} {state : State} :
      state.Sound all →
      state.inProgress = stackOf waiting →
      name ∈ state.resolved.keys →
      Awaits all name waiting →
      Steady all (.returns name waiting names state)
  | fails {fault : PartFault} {waiting : List Link} :
      fault.Witnessed all →
      waiting.length ≤ all.size →
      Steady all (.fails fault waiting)

namespace Moment

/-- The part on top of the stack is completed, and its call returns to those that wait for it. -/
theorem steady_finish (sound : state.Sound all) (ready : state.Ready all name descriptor)
    (stack : state.inProgress = stackOf waiting ++ [name]) (awaits : Awaits all name waiting)
    (bound : waiting.length ≤ all.size) :
    Steady all (finish name descriptor waiting names state) := by
  have popped : state.pop.inProgress = stackOf waiting := by
    rw [State.pop, stack, List.dropLast_concat]
  have delivers : Delivers all [name] state.pop (complete name descriptor state).result :=
    complete_delivers sound ready (popped.symm ▸ stack) fun _ _ found => found
  unfold finish
  generalize (complete name descriptor state).result = result at delivers
  cases result with
  | error fault => exact .fails delivers bound
  | ok after =>
      have reached : state.pop.Reaches all [name] after := delivers
      have resolved := reached.added name (List.mem_singleton_self name)
        (OrderedMap.mem_keys_of_get? ready.found)
      exact .returns reached.sound (reached.stack.trans popped) resolved awaits

/-- A call that begins returns at once, fails, completes its part or calls for the parent. -/
theorem steady_next_enters (sound : state.Sound all) (stack : state.inProgress = stackOf waiting)
    (declared : all.get? name = some descriptor) (awaits : Awaits all name waiting) :
    Steady all (next all (.enters name descriptor waiting names state)) := by
  have bound := sound.length_le stack
  have awaited := awaits.extends_of_getLast? stack
  have listed := OrderedMap.mem_keys_of_get? declared
  rw [next]
  split
  · next resolved => exact .returns sound stack (OrderedMap.contains_iff.1 resolved) awaits
  · next unresolved =>
      split
      · next again => exact .fails (sound.witnessed_cyclic again awaited) bound
      · next fresh =>
          have pushed := sound.push listed (by simpa using unresolved) fresh awaited
          have grown : (state.push name).inProgress = stackOf waiting ++ [name] :=
            congrArg (· ++ [name]) stack
          cases extend : descriptor.parent with
          | none => exact steady_finish pushed (State.ready_push declared extend) grown awaits bound
          | some parent =>
              cases known : all.get? parent with
              | none =>
                  have unknown := OrderedMap.get?_eq_none_iff.1 known
                  simp only [known]
                  exact .fails ⟨⟨descriptor, declared, extend⟩, unknown⟩ bound
              | some above =>
                  simp only [known]
                  refine .enters pushed ?_ known (.child declared extend awaits)
                  rw [grown, stackOf_cons]

/-- A call that has returned lets the innermost of those that wait go on. -/
theorem steady_next_returns (sound : state.Sound all) (stack : state.inProgress = stackOf waiting)
    (resolved : name ∈ state.resolved.keys) (awaits : Awaits all name waiting) :
    Steady all (next all (.returns name waiting names state)) := by
  cases awaits with
  | nobody => exact .between sound stack
  | @child _ child descriptor waiting declared extend awaits =>
      have bound := sound.length_le stack
      rw [stackOf_cons] at stack
      have ready : state.Ready all child descriptor := by
        refine ⟨declared, ⟨stackOf waiting, stack⟩, fun parent named => ?_⟩
        rwa [← Option.some.inj (extend.symm.trans named)]
      exact steady_finish sound ready stack awaits (Nat.le_of_succ_le bound)

theorem Steady.next {moment : Moment} (steady : Steady all moment) :
    Steady all (moment.next all) := by
  cases steady with
  | @between names state sound idle =>
      cases names with
      | nil => exact .between sound idle
      | cons name names =>
          cases declared : all.get? name with
          | none =>
              simp only [Moment.next, declared]
              exact .between sound idle
          | some descriptor =>
              simp only [Moment.next, declared]
              exact .enters sound idle declared .nobody
  | enters sound stack declared awaits => exact steady_next_enters sound stack declared awaits
  | returns sound stack resolved awaits => exact steady_next_returns sound stack resolved awaits
  | fails witnessed bound => exact .fails witnessed bound

end Moment

/-- How many calls are under way is bounded by the number of parts. -/
theorem Moment.Steady.depth_le {moment : Moment} (steady : Steady all moment) :
    moment.depth ≤ all.size + 1 := by
  cases steady with
  | between => exact Nat.zero_le _
  | enters sound stack => exact Nat.succ_le_succ (sound.length_le stack)
  | returns sound stack => exact Nat.succ_le_succ (sound.length_le stack)
  | fails _ bound => exact Nat.succ_le_succ bound

/-- A call that makes another one waits for it, with its own name put on the stack. -/
theorem Moment.nested_of_next_enters {parent : String} {above : PartDescriptor}
    {callers : List Link} {others : List String} {inner : State}
    (nested : next all (.enters name descriptor waiting names state) =
      .enters parent above callers others inner) :
    name ∉ state.inProgress ∧ callers = (name, descriptor) :: waiting ∧
      inner = state.push name := by
  have completes (state : State) : finish name descriptor waiting names state ≠
      .enters parent above callers others inner := by
    unfold finish
    cases (complete name descriptor state).result <;> exact nofun
  rw [next] at nested
  split at nested
  · cases nested
  · split at nested
    · cases nested
    · next fresh =>
        split at nested
        · exact absurd nested (completes _)
        · split at nested
          · cases nested
          · cases nested
            exact ⟨fresh, rfl, rfl⟩

/-- Every moment of a run is steady. -/
theorem steady_moment (all : Descriptors) (n : Nat) : (all.moment n).Steady all := by
  induction n with
  | zero => exact .between (State.sound_initial all) rfl
  | succ n ih =>
      rw [Descriptors.moment_succ]
      exact ih.next

end Resolution

open Resolution

/-- The calls that begin are those that the resolver makes, and whenever a call begins or returns,
the state is in order.  A call that begins is answered as the resolver says: it returns to the calls
that wait for it, with the stack and the resolved parts as it found them and its own part added, or
the run fails.  When a call returns, the innermost call that waits finds its parent resolved and its
own name on top of the stack. -/
theorem Descriptors.calls_inOrder (all : Descriptors) :
    (∀ name descriptor waiting names state,
      (∃ n, all.moment n = .enters name descriptor waiting names state) ↔
        Calls all name descriptor waiting names state) ∧
    (∀ n name descriptor waiting names state,
      all.moment n = .enters name descriptor waiting names state →
      InOrder all waiting state ∧ ∃ declared : all.get? name = some descriptor,
        match (resolvePart all name descriptor declared state).result with
        | .ok after => state.Reaches all [name] after ∧ InOrder all waiting after ∧
            name ∈ after.resolved.keys ∧
            ∃ later, all.moment (n + later) = .returns name waiting names after
        | .error fault => ∃ later others, all.moment (n + later) = .fails fault others) ∧
    ∀ n name waiting names state,
      all.moment n = .returns name waiting names state →
      InOrder all waiting state ∧ name ∈ state.resolved.keys ∧
        ∀ child descriptor others, waiting = (child, descriptor) :: others →
          descriptor.parent = some name ∧ state.inProgress = stackOf others ++ [child] := by
  refine ⟨fun _ _ _ _ _ => exists_moment_iff_calls, ?_, ?_⟩
  · intro n name descriptor waiting names state begun
    have steady := steady_moment all n
    rw [begun] at steady
    cases steady with
    | enters sound stack declared awaits =>
        refine ⟨sound.inOrder stack, declared, ?_⟩
        have delivers := resolvePart_delivers declared sound (awaits.extends_of_getLast? stack)
        obtain ⟨later, answer⟩ := Moment.enters_leadsTo declared waiting names state
        rw [← begun, ← moment_add] at answer
        cases outcome : (resolvePart all name descriptor declared state).result with
        | error fault =>
            rw [outcome] at answer
            obtain ⟨others, failed⟩ := answer
            exact ⟨later, others, failed⟩
        | ok after =>
            rw [outcome] at answer delivers
            have reached : state.Reaches all [name] after := delivers
            refine ⟨reached, reached.sound.inOrder (reached.stack.trans stack), ?_, later, answer⟩
            exact reached.added name (List.mem_singleton_self name)
              (OrderedMap.mem_keys_of_get? declared)
  · intro n name waiting names state returned
    have steady := steady_moment all n
    rw [returned] at steady
    cases steady with
    | returns sound stack resolved awaits =>
        refine ⟨sound.inOrder stack, resolved, ?_⟩
        rintro child descriptor others rfl
        cases awaits with
        | child _ extend _ => exact ⟨extend, stack.trans (stackOf_cons _ _)⟩

/-- The base is called for while the calls for the device and for the lamp wait, and when it is
resolved the call for the device goes on. -/
theorem Descriptors.lampFamily_inOrder :
    ∃ base device lamp before after waiting,
      waiting = [("Device", device), ("Lamp", lamp)] ∧
      lampFamily.moment 3 = .enters "Base" base waiting ["Base", "Device"] before ∧
      Calls lampFamily "Base" base waiting ["Base", "Device"] before ∧
      InOrder lampFamily waiting before ∧
      before.Reaches lampFamily ["Base"] after ∧
      lampFamily.moment 4 = .returns "Base" waiting ["Base", "Device"] after ∧
      InOrder lampFamily waiting after ∧ "Base" ∈ after.resolved.keys ∧
      device.parent = some "Base" ∧ after.inProgress = ["Lamp", "Device"] := by
  obtain ⟨base, device, lamp, before, after, begun, outcome, returned⟩ :
      ∃ base device lamp before after,
        lampFamily.moment 3 = .enters "Base" base [("Device", device), ("Lamp", lamp)]
          ["Base", "Device"] before ∧
        (∀ declared, (resolvePart lampFamily "Base" base declared before).result = .ok after) ∧
        lampFamily.moment 4 = .returns "Base" [("Device", device), ("Lamp", lamp)]
          ["Base", "Device"] after := by
    refine ⟨_, _, _, _, _, rfl, fun declared => ?_, rfl⟩
    rw [resolvePart_of_root declared (by decide) (by decide) rfl]
    rfl
  obtain ⟨called, enters, returns⟩ := calls_inOrder lampFamily
  obtain ⟨order, declared, answer⟩ := enters _ _ _ _ _ _ begun
  rw [outcome declared] at answer
  obtain ⟨order', resolved, goesOn⟩ := returns _ _ _ _ _ returned
  obtain ⟨extend, stack⟩ := goesOn _ _ _ rfl
  exact ⟨base, device, lamp, before, after, _, rfl, begun, (called _ _ _ _ _).1 ⟨3, begun⟩, order,
    answer.1, returned, order', resolved, extend, stack⟩

/-- A nested call finds fewer declared names that are not in progress than the call that makes it,
no more calls than there are parts and one are ever under way, and the run comes to the outcome of
resolution. -/
theorem Descriptors.calls_end (all : Descriptors) :
    (∀ n name descriptor waiting names state,
      all.moment n = .enters name descriptor waiting names state →
      ∀ parent above callers others inner,
        all.moment (n + 1) = .enters parent above callers others inner →
        callers = (name, descriptor) :: waiting ∧ inner.remaining all < state.remaining all) ∧
    (∀ n, (all.moment n).depth ≤ all.size + 1) ∧
    ∃ n, ∀ later, (all.moment (n + later)).outcome? all = some all.resolve := by
  refine ⟨?_, fun n => (steady_moment all n).depth_le, exists_outcome?_moment all⟩
  intro n name descriptor waiting names state begun parent above callers others inner nested
  have steady := steady_moment all n
  rw [moment_succ, begun] at nested
  rw [begun] at steady
  obtain ⟨fresh, rfl, rfl⟩ := Moment.nested_of_next_enters nested
  cases steady with
  | enters sound stack declared awaits =>
      exact ⟨rfl, State.remaining_push_lt (OrderedMap.mem_keys_of_get? declared) fresh⟩

/-- A part that extends itself is called for once more while it waits. -/
example : (Descriptors.moment (.ofList [("Loop", { parent := some "Loop" })]) 2).depth = 2 := by
  decide +kernel

end PartDefs
