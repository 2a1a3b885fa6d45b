import Mathlib.Logic.Function.Iterate
import PartDefs.Proofs.Resolution.Walk

/-!
# The calls of a run

A run of the resolver, moment by moment: a call begins, perhaps after others that wait for it, it
returns or fails, and then the innermost of the calls that wait goes on.  Each moment follows from
the one before without recursion, and the last one shows what resolution comes to.  The calls that
begin on the way are those that the resolver makes in its recursion.
-/

namespace PartDefs
namespace Resolution

/-- A moment of a run.  The calls that wait for their parents stand innermost first; the names are
those that the run has still to take up. -/
inductive Moment where
  /-- No call is under way. -/
  | between (names : List String) (state : State)
  /-- The call for a part begins. -/
  | enters (name : String) (descriptor : PartDescriptor) (waiting : List Link)
      (names : List String) (state : State)
  /-- The call for a part has succeeded. -/
  | returns (name : String) (waiting : List Link) (names : List String) (state : State)
  /-- A call has failed, and with it those that wait for it. -/
  | fails (fault : PartFault) (waiting : List Link)

namespace Moment

/-- A call completes its part, its own name being on top of the stack. -/
def finish (name : String) (descriptor : PartDescriptor) (waiting : List Link)
    (names : List String) (state : State) : Moment :=
  match (complete name descriptor state).result with
  | .ok after => .returns name waiting names after
  | .error fault => .fails fault waiting

/-- The moment that follows.  A run that has come to its end stays there. -/
def next (all : Descriptors) : Moment → Moment
  | .between [] state => .between [] state
  | .between (name :: names) state =>
      match all.get? name with
      | none => .between names state
      | some descriptor => .enters name descriptor [] names state
  | .enters name descriptor waiting names state =>
      if state.resolved.contains name then .returns name waiting names state
      else if name ∈ state.inProgress then .fails (.cyclic (state.cycleFrom name)) waiting
      else
        match descriptor.parent with
        | none => finish name descriptor waiting names (state.push name)
        | some parent =>
            match all.get? parent with
            | none => .fails (.unknownParent name parent) waiting
            | some above =>
                .enters parent above ((name, descriptor) :: waiting) names (state.push name)
  | .returns _ [] names state => .between names state
  | .returns _ ((child, descriptor) :: waiting) names state =>
      finish child descriptor waiting names state
  | .fails fault waiting => .fails fault waiting

/-- How many calls are under way: those that wait and one more. -/
def depth : Moment → Nat
  | .between _ _ => 0
  | .enters _ _ waiting _ _ | .returns _ waiting _ _ | .fails _ waiting => waiting.length + 1

/-- What the run has come to, if the moment is its last. -/
def outcome? (all : Descriptors) : Moment → Option (Except PartFault Resolution)
  | .between [] state => some (.ok (ofState all state))
  | .fails fault _ => some (.error fault)
  | _ => none

/-- Some time after a moment, or at it, a condition holds. -/
def LeadsTo (all : Descriptors) (moment : Moment) (goal : Moment → Prop) : Prop :=
  ∃ later, goal ((next all)^[later] moment)

variable {all : Descriptors} {moment : Moment} {goal further : Moment → Prop}

theorem LeadsTo.now (reached : goal moment) : moment.LeadsTo all goal :=
  ⟨0, reached⟩

theorem LeadsTo.after_next (later : (moment.next all).LeadsTo all goal) :
    moment.LeadsTo all goal := by
  obtain ⟨steps, reached⟩ := later
  exact ⟨steps + 1, reached⟩

theorem LeadsTo.trans (first : moment.LeadsTo all goal)
    (goesOn : ∀ middle, goal middle → middle.LeadsTo all further) : moment.LeadsTo all further := by
  obtain ⟨early, reached⟩ := first
  obtain ⟨late, final⟩ := goesOn _ reached
  refine ⟨late + early, ?_⟩
  rwa [Function.iterate_add_apply]

/-! ## Calls and their answers -/

/-- The answer of a call: it returns the state that it leads to, or the run fails. -/
def Answers (name : String) (waiting : List Link) (names : List String) :
    Except PartFault State → Moment → Prop
  | .ok after, moment => moment = .returns name waiting names after
  | .error fault, moment => ∃ others, moment = .fails fault others

variable {name : String} {descriptor : PartDescriptor}

theorem answers_finish (name : String) (descriptor : PartDescriptor) (waiting : List Link)
    (names : List String) (state : State) :
    Answers name waiting names (complete name descriptor state).result
      (finish name descriptor waiting names state) := by
  unfold finish
  cases (complete name descriptor state).result with
  | ok after => rfl
  | error fault => exact ⟨waiting, rfl⟩

/-- A call that begins is answered as the resolver says. -/
theorem enters_leadsTo (declared : all.get? name = some descriptor) (waiting : List Link)
    (names : List String) (state : State) :
    (enters name descriptor waiting names state).LeadsTo all
      (Answers name waiting names (resolvePart all name descriptor declared state).result) := by
  fun_induction resolvePart all name descriptor declared state generalizing waiting with
  | case1 name descriptor declared state resolved =>
      refine .after_next (.now ?_)
      rw [next, if_pos resolved]
      rfl
  | case2 name descriptor declared state unresolved again =>
      refine .after_next (.now ?_)
      rw [next, if_neg unresolved, if_pos again]
      exact ⟨waiting, rfl⟩
  | case3 name descriptor declared state unresolved fresh alone =>
      refine .after_next (.now ?_)
      rw [next, if_neg unresolved, if_neg fresh, alone]
      exact answers_finish name descriptor waiting names (state.push name)
  | case4 name descriptor declared state unresolved fresh parent extend unknown =>
      refine .after_next (.now ?_)
      simp only [next, if_neg unresolved, if_neg fresh, extend, unknown]
      exact ⟨waiting, rfl⟩
  | case5 name descriptor declared state unresolved fresh parent extend above known ih =>
      refine .after_next ?_
      simp only [next, if_neg unresolved, if_neg fresh, extend, known]
      rw [Traced.result_bind]
      -- The call for the parent is answered first, while this one waits.
      refine (ih ((name, descriptor) :: waiting)).trans fun middle answer => ?_
      cases outcome : (resolvePart all parent above known (state.push name)).result with
      | error fault =>
          rw [outcome] at answer
          exact .now answer
      | ok after =>
          rw [outcome] at answer
          obtain rfl : middle = _ := answer
          exact .after_next (.now (answers_finish name descriptor waiting names after))

/-- What the turns of some names come to, with others left: the run goes on with those, or it
fails. -/
def Settles (names : List String) : Except PartFault State → Moment → Prop
  | .ok after, moment => moment = .between names after
  | .error fault, moment => ∃ others, moment = .fails fault others

/-- The turns of some names come to what the resolver makes of these names. -/
theorem between_leadsTo (front names : List String) (state : State) :
    (between (front ++ names) state).LeadsTo all
      (Settles names (resolveEach all front state).result) := by
  induction front generalizing state with
  | nil => exact .now rfl
  | cons name front ih =>
      refine .after_next ?_
      cases declared : all.get? name with
      | none =>
          rw [resolveEach_of_unknown declared]
          simp only [List.cons_append, next, declared]
          exact ih state
      | some descriptor =>
          rw [resolveEach_of_known declared, Traced.result_bind]
          simp only [List.cons_append, next, declared]
          refine (enters_leadsTo declared [] (front ++ names) state).trans fun middle answer => ?_
          cases outcome : (resolvePart all name descriptor declared state).result with
          | error fault =>
              rw [outcome] at answer
              exact .now answer
          | ok after =>
              rw [outcome] at answer
              obtain rfl : middle = _ := answer
              exact .after_next (ih after)

/-- A run that has come to its end stays there. -/
theorem next_eq_self {result : Except PartFault Resolution}
    (final : moment.outcome? all = some result) : moment.next all = moment := by
  cases moment with
  | between names state =>
      cases names with
      | nil => rfl
      | cons => cases final
  | enters => cases final
  | returns => cases final
  | fails => rfl

end Moment

/-! ## The calls of the resolver -/

/-- The calls that the resolver makes in a run: for each part when its turn comes, and for the
parent of a part that is called for while it is neither resolved nor in progress.  Those that wait
stand innermost first; the names are those whose turn is still to come. -/
inductive Calls (all : Descriptors) :
    String → PartDescriptor → List Link → List String → State → Prop where
  | turn {name : String} {descriptor : PartDescriptor} {front names : List String}
      {state : State} :
      all.keys = front ++ name :: names →
      (resolveEach all front .initial).result = .ok state →
      all.get? name = some descriptor →
      Calls all name descriptor [] names state
  | parent {name parent : String} {descriptor above : PartDescriptor} {waiting : List Link}
      {names : List String} {state : State} :
      Calls all name descriptor waiting names state →
      name ∉ state.resolved.keys →
      name ∉ state.inProgress →
      descriptor.parent = some parent →
      all.get? parent = some above →
      Calls all parent above ((name, descriptor) :: waiting) names (state.push name)

variable {all : Descriptors} {name : String} {descriptor : PartDescriptor} {waiting : List Link}
  {names : List String} {state : State}

theorem Calls.declared (called : Calls all name descriptor waiting names state) :
    all.get? name = some descriptor := by
  cases called with
  | turn _ _ found => exact found
  | parent _ _ _ _ found => exact found

namespace Moment

/-- The moments of a run in the terms of the resolver: between two turns the state is what the names
so far have led to, a call that begins is one that the resolver makes, and what it returns is what
the resolver returns. -/
inductive Tells (all : Descriptors) : Moment → Prop where
  | between {front names : List String} {state : State} :
      all.keys = front ++ names →
      (resolveEach all front .initial).result = .ok state →
      Tells all (.between names state)
  | enters {name : String} {descriptor : PartDescriptor} {waiting : List Link}
      {names : List String} {state : State} :
      Calls all name descriptor waiting names state →
      Tells all (.enters name descriptor waiting names state)
  | returns {name : String} {descriptor : PartDescriptor} {waiting : List Link}
      {names : List String} {before after : State} (declared : all.get? name = some descriptor) :
      Calls all name descriptor waiting names before →
      (resolvePart all name descriptor declared before).result = .ok after →
      Tells all (.returns name waiting names after)
  | fails {fault : PartFault} {waiting : List Link} : Tells all (.fails fault waiting)

/-- A turn that is over counts among those so far. -/
theorem tells_after_turn {front : List String} {after : State}
    (keys : all.keys = front ++ name :: names)
    (reached : (resolveEach all front .initial).result = .ok state)
    (turn : (resolveEach all [name] state).result = .ok after) :
    Tells all (.between names after) := by
  have keys' : all.keys = (front ++ [name]) ++ names := by simpa using keys
  refine .between keys' ?_
  rw [result_resolveEach_append, reached]
  exact turn

/-- A call that ends by completing its part returns what the resolver returns. -/
theorem tells_finish {middle : State} (called : Calls all name descriptor waiting names state)
    (ends : (resolvePart all name descriptor called.declared state).result =
      (complete name descriptor middle).result) :
    Tells all (finish name descriptor waiting names middle) := by
  unfold finish
  cases completed : (complete name descriptor middle).result with
  | error fault => exact .fails
  | ok after => exact .returns called.declared called (ends.trans completed)

theorem tells_next_enters (called : Calls all name descriptor waiting names state) :
    Tells all (next all (.enters name descriptor waiting names state)) := by
  have declared := called.declared
  rw [next]
  split
  · next resolved =>
      refine .returns declared called ?_
      rw [resolvePart_of_resolved declared (OrderedMap.contains_iff.1 resolved)]
      rfl
  · next unresolved =>
      have unresolved : name ∉ state.resolved.keys := by simpa using unresolved
      split
      · exact .fails
      · next fresh =>
          cases extend : descriptor.parent with
          | none =>
              refine tells_finish called ?_
              rw [resolvePart_of_root declared unresolved fresh extend]
          | some parent =>
              cases known : all.get? parent with
              | none =>
                  simp only [known]
                  exact .fails
              | some above =>
                  simp only [known]
                  exact .enters (.parent called unresolved fresh extend known)

theorem tells_next_returns {before after : State} (declared : all.get? name = some descriptor)
    (called : Calls all name descriptor waiting names before)
    (returned : (resolvePart all name descriptor declared before).result = .ok after) :
    Tells all (next all (.returns name waiting names after)) := by
  cases called with
  | turn keys reached _ =>
      refine tells_after_turn keys reached ?_
      rw [resolveEach_of_known declared, Traced.result_bind, returned]
      rfl
  | parent called unresolved fresh extend _ =>
      refine tells_finish called ?_
      rw [resolvePart_of_known called.declared unresolved fresh extend declared,
        Traced.result_bind, returned]
      rfl

theorem Tells.next {moment : Moment} (tells : Tells all moment) : Tells all (moment.next all) := by
  cases tells with
  | @between front names state keys reached =>
      cases names with
      | nil => exact .between keys reached
      | cons name names =>
          cases declared : all.get? name with
          | none =>
              simp only [Moment.next, declared]
              refine tells_after_turn keys reached ?_
              rw [resolveEach_of_unknown declared]
              rfl
          | some descriptor =>
              simp only [Moment.next, declared]
              exact .enters (.turn keys reached declared)
  | enters called => exact tells_next_enters called
  | returns declared called returned => exact tells_next_returns declared called returned
  | fails => exact .fails

end Moment
end Resolution

open Resolution

/-- The moments of the run that resolves all parts, counted from its start. -/
def Descriptors.moment (all : Descriptors) (n : Nat) : Moment :=
  (Moment.next all)^[n] (.between all.keys .initial)

namespace Descriptors

variable {all : Descriptors} {n : Nat}

theorem moment_succ (all : Descriptors) (n : Nat) :
    all.moment (n + 1) = (all.moment n).next all :=
  Function.iterate_succ_apply' _ _ _

theorem moment_add (all : Descriptors) (n later : Nat) :
    all.moment (n + later) = (Moment.next all)^[later] (all.moment n) := by
  rw [moment, moment, Nat.add_comm, Function.iterate_add_apply]

/-- The run comes to the outcome of resolution and stays there. -/
theorem exists_outcome?_moment (all : Descriptors) :
    ∃ n, ∀ later, (all.moment (n + later)).outcome? all = some all.resolve := by
  obtain ⟨n, settled⟩ := @Moment.between_leadsTo all all.keys [] .initial
  rw [List.append_nil] at settled
  have final : (all.moment n).outcome? all = some all.resolve := by
    rw [resolve_eq]
    cases outcome : (resolveEach all all.keys .initial).result with
    | error fault =>
        rw [outcome] at settled
        obtain ⟨others, failed⟩ := settled
        have fails : all.moment n = .fails fault others := failed
        rw [fails]
        rfl
    | ok after =>
        rw [outcome] at settled
        have ended : all.moment n = .between [] after := settled
        rw [ended]
        rfl
  refine ⟨n, fun later => ?_⟩
  rw [moment_add, Function.iterate_fixed (Moment.next_eq_self final)]
  exact final

theorem tells_moment (all : Descriptors) (n : Nat) : (all.moment n).Tells all := by
  induction n with
  | zero => exact @Moment.Tells.between all [] all.keys _ rfl rfl
  | succ n ih =>
      rw [moment_succ]
      exact ih.next

/-- The calls that begin in a run are those that the resolver makes. -/
theorem exists_moment_iff_calls {name : String} {descriptor : PartDescriptor}
    {waiting : List Link} {names : List String} {state : State} :
    (∃ n, all.moment n = .enters name descriptor waiting names state) ↔
      Calls all name descriptor waiting names state := by
  constructor
  · rintro ⟨n, begun⟩
    have tells := tells_moment all n
    rw [begun] at tells
    cases tells with
    | enters called => exact called
  · intro called
    induction called with
    | @turn name descriptor front names state keys reached declared =>
        obtain ⟨n, settled⟩ := @Moment.between_leadsTo all front (name :: names) .initial
        rw [← keys, reached] at settled
        have stands : all.moment n = .between (name :: names) state := settled
        refine ⟨n + 1, ?_⟩
        rw [moment_succ, stands]
        simp only [Moment.next, declared]
    | parent _ unresolved fresh extend known ih =>
        obtain ⟨n, begun⟩ := ih
        refine ⟨n + 1, ?_⟩
        rw [moment_succ, begun]
        simp [Moment.next, unresolved, fresh, extend, known]

end Descriptors

end PartDefs
