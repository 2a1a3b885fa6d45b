import PartDefs.Proofs.Resolution.Members

/-!
# The log of a resolution

Each part that is resolved leaves one entry in the log: that it claims to be the default, that it
takes over the members of its parent, and that it is complete, as far as these apply.  The entries
of parents stand before those of their children.  A run that fails ends after some entries, or after
the claim of the part that it fails at; so the log is in order however the run ends.
-/

namespace PartDefs

namespace Notice

/-- The part that is reported as complete. -/
def resolvedName? : Notice → Option String
  | resolved part _ _ _ => some part
  | _ => none

/-- The part that is reported as taking over members, with its parent. -/
def mergedLink? : Notice → Option (String × String)
  | mergedInherited part parent => some (part, parent)
  | _ => none

/-- The part that is reported as claiming to be the default. -/
def claimedName? : Notice → Option String
  | claimedDefault part => some part
  | _ => none

/-- The part whose completion is reported, with its last step or the one before. -/
def completing? : Notice → Option String
  | mergedInherited part _ => some part
  | resolved part _ _ _ => some part
  | _ => none

end Notice

namespace Resolution

/-- The parts that a log reports as complete, in its order. -/
def resolvedNames (log : List Notice) : List String :=
  log.filterMap Notice.resolvedName?

/-- The parts that a log reports as taking over members, each with its parent. -/
def mergedLinks (log : List Notice) : List (String × String) :=
  log.filterMap Notice.mergedLink?

/-- The parts that a log reports as claiming to be the default. -/
def claimedNames (log : List Notice) : List String :=
  log.filterMap Notice.claimedName?

/-- How the notices of a run stand to each other, whether it succeeds or fails. -/
structure Orderly (all : Descriptors) (log : List Notice) : Prop where
  /-- No part is resolved twice. -/
  resolvedOnce : (resolvedNames log).Nodup
  /-- A parent is resolved before its child. -/
  parentsFirst : ∀ child parent, child ∈ resolvedNames log → all.Extends child parent →
    [parent, child].Sublist (resolvedNames log)
  mergedOnce : (mergedLinks log).Nodup
  /-- Members are taken over by the resolved parts that extend another, and by no others. -/
  merged_iff : ∀ child parent, (child, parent) ∈ mergedLinks log ↔
    child ∈ resolvedNames log ∧ all.Extends child parent
  /-- A part that has taken over members is complete with the next notice. -/
  mergedNext : ∀ child parent, (child, parent) ∈ mergedLinks log →
    ∃ methods properties events, [.mergedInherited child parent,
      .resolved child methods properties events] <:+: log
  claimedOnce : (claimedNames log).length ≤ 1
  /-- A part claims to be the default before anything else is reported of it. -/
  claimedFirst : ∀ name later, name ∈ claimedNames log → later ∈ log →
    later.completing? = some name → [.claimedDefault name, later].Sublist log

/-- The counts that a log reports of each part are the sizes of what the part holds. -/
def Tallies (log : List Notice) (parts : OrderedMap String Part) : Prop :=
  ∀ name methods properties events, .resolved name methods properties events ∈ log →
    ∃ part, parts.get? name = some part ∧ part.methods.size = methods ∧
      part.properties.size = properties ∧ part.events.size = events

/-- What the log of a successful run tells about its outcome. -/
structure Accounts (all : Descriptors) (log : List Notice) (resolution : Resolution) : Prop where
  names : (resolvedNames log).Perm all.keys
  tallies : Tallies log resolution.parts
  claimed : claimedNames log = resolution.defaultPart.toList

/-- What the log of a failed run tells: some parts are resolved, but not all of them, and with each
its parent. -/
structure BreaksOff (all : Descriptors) (log : List Notice) : Prop where
  declared : resolvedNames log ⊆ all.keys
  missing : ∃ name ∈ all.keys, name ∉ resolvedNames log
  closed : ∀ child parent, child ∈ resolvedNames log → all.Extends child parent →
    parent ∈ resolvedNames log

/-! ## The entry of a part -/

/-- The notices by which a part is completed. -/
def completion (descriptor : PartDescriptor) (part : Part) : List Notice :=
  (descriptor.parent.map (Notice.mergedInherited part.name)).toList ++
    [.resolved part.name part.methods.size part.properties.size part.events.size]

variable {all : Descriptors} {name : String} {descriptor : PartDescriptor} {log : List Notice}

theorem resolvedNames_append (log later : List Notice) :
    resolvedNames (log ++ later) = resolvedNames log ++ resolvedNames later :=
  List.filterMap_append

theorem mergedLinks_append (log later : List Notice) :
    mergedLinks (log ++ later) = mergedLinks log ++ mergedLinks later :=
  List.filterMap_append

theorem claimedNames_append (log later : List Notice) :
    claimedNames (log ++ later) = claimedNames log ++ claimedNames later :=
  List.filterMap_append

theorem resolvedNames_append_claim (log : List Notice) (name : String)
    (descriptor : PartDescriptor) :
    resolvedNames (log ++ claim name descriptor) = resolvedNames log := by
  rw [resolvedNames_append, List.append_right_eq_self]
  cases flag : descriptor.isDefault <;> rw [claim, flag] <;> rfl

theorem mergedLinks_append_claim (log : List Notice) (name : String)
    (descriptor : PartDescriptor) :
    mergedLinks (log ++ claim name descriptor) = mergedLinks log := by
  rw [mergedLinks_append, List.append_right_eq_self]
  cases flag : descriptor.isDefault <;> rw [claim, flag] <;> rfl

theorem claimedNames_append_claim (log : List Notice) (name : String)
    (descriptor : PartDescriptor) :
    claimedNames (log ++ claim name descriptor) =
      claimedNames log ++ if descriptor.isDefault then [name] else [] := by
  rw [claimedNames_append, List.append_cancel_left_eq]
  cases flag : descriptor.isDefault <;> rw [claim, flag] <;> rfl

theorem resolvedNames_append_completion (log : List Notice) (descriptor : PartDescriptor)
    (part : Part) :
    resolvedNames (log ++ completion descriptor part) = resolvedNames log ++ [part.name] := by
  rw [resolvedNames_append, List.append_cancel_left_eq]
  cases extend : descriptor.parent <;> rw [completion, extend] <;> rfl

theorem claimedNames_append_completion (log : List Notice) (descriptor : PartDescriptor)
    (part : Part) : claimedNames (log ++ completion descriptor part) = claimedNames log := by
  rw [claimedNames_append, List.append_right_eq_self]
  cases extend : descriptor.parent <;> rw [completion, extend] <;> rfl

theorem mergedLinks_completion (descriptor : PartDescriptor) (part : Part) :
    mergedLinks (completion descriptor part) =
      (descriptor.parent.map fun parent => (part.name, parent)).toList := by
  cases extend : descriptor.parent <;> rw [completion, extend] <;> rfl

theorem claimedDefault_mem (claimed : name ∈ claimedNames log) : .claimedDefault name ∈ log := by
  obtain ⟨notice, listed, named⟩ := List.mem_filterMap.1 claimed
  cases notice with
  | claimedDefault part => exact Option.some.inj named ▸ listed
  | mergedInherited | resolved | reading | wrote | loadingProject | validDescriptors => cases named

namespace Orderly

theorem nil (all : Descriptors) : Orderly all [] where
  resolvedOnce := List.nodup_nil
  parentsFirst := by simp [resolvedNames]
  mergedOnce := List.nodup_nil
  merged_iff := by simp [resolvedNames, mergedLinks]
  mergedNext := by simp [mergedLinks]
  claimedOnce := Nat.zero_le 1
  claimedFirst := by simp [claimedNames]

/-- Whatever is reported of the completion of a part, the part is reported as complete. -/
theorem mem_resolvedNames {notice : Notice} (orderly : Orderly all log) (listed : notice ∈ log)
    (about : notice.completing? = some name) : name ∈ resolvedNames log := by
  cases notice with
  | mergedInherited part parent =>
      obtain rfl := Option.some.inj about
      have merged : (part, parent) ∈ mergedLinks log := List.mem_filterMap.2 ⟨_, listed, rfl⟩
      exact ((orderly.merged_iff part parent).1 merged).1
  | resolved part methods properties events =>
      obtain rfl := Option.some.inj about
      exact List.mem_filterMap.2 ⟨_, listed, rfl⟩
  | claimedDefault | reading | wrote | loadingProject | validDescriptors => cases about

/-- The first claim keeps the log in order if its part is not resolved yet. -/
theorem claim (orderly : Orderly all log) (fresh : name ∉ resolvedNames log)
    (free : descriptor.isDefault = true → claimedNames log = []) :
    Orderly all (log ++ Resolution.claim name descriptor) := by
  have names := resolvedNames_append_claim log name descriptor
  have links := mergedLinks_append_claim log name descriptor
  have claims := claimedNames_append_claim log name descriptor
  constructor
  case resolvedOnce => exact names ▸ orderly.resolvedOnce
  case parentsFirst => exact names ▸ orderly.parentsFirst
  case mergedOnce => exact links ▸ orderly.mergedOnce
  case merged_iff => exact names ▸ links ▸ orderly.merged_iff
  case mergedNext =>
    intro child parent merged
    obtain ⟨methods, properties, events, adjacent⟩ :=
      orderly.mergedNext child parent (links ▸ merged)
    exact ⟨methods, properties, events, adjacent.trans (List.prefix_append log _).isInfix⟩
  case claimedOnce =>
    rw [claims]
    cases flag : descriptor.isDefault with
    | false => simpa using orderly.claimedOnce
    | true => simp [free flag]
  case claimedFirst =>
    intro other later member listed about
    rw [claims] at member
    rcases List.mem_append.1 listed with listed | listed
    · rcases List.mem_append.1 member with member | member
      · exact (orderly.claimedFirst other later member listed about).trans
          (List.sublist_append_left _ _)
      · -- Nothing has been reported of the part so far.
        have same : other = name := by simpa using (List.mem_ite_nil_right.1 member).2
        exact absurd (orderly.mem_resolvedNames listed about) (same ▸ fresh)
    · have claimed : later = .claimedDefault name := by
        simpa using (List.mem_ite_nil_right.1 listed).2
      rw [claimed] at about
      cases about

/-- The completion of a part whose parent is resolved keeps the log in order. -/
theorem completion {part : Part} (orderly : Orderly all log)
    (found : all.get? part.name = some descriptor) (fresh : part.name ∉ resolvedNames log)
    (above : ∀ parent, descriptor.parent = some parent → parent ∈ resolvedNames log) :
    Orderly all (log ++ Resolution.completion descriptor part) := by
  have extends_iff (parent : String) :
      all.Extends part.name parent ↔ descriptor.parent = some parent := by
    simp [Descriptors.Extends, found]
  have names := resolvedNames_append_completion log descriptor part
  have claims := claimedNames_append_completion log descriptor part
  have link_iff (child parent : String) :
      (child, parent) ∈ mergedLinks (Resolution.completion descriptor part) ↔
        child = part.name ∧ descriptor.parent = some parent := by
    rw [mergedLinks_completion]
    cases descriptor.parent <;> simp [eq_comm]
  constructor
  case resolvedOnce =>
    rw [names, List.nodup_append]
    refine ⟨orderly.resolvedOnce, by simp, ?_⟩
    rintro other member _ last rfl
    exact fresh (List.mem_singleton.1 last ▸ member)
  case parentsFirst =>
    intro child parent member extend
    rw [names] at member ⊢
    rcases List.mem_append.1 member with member | member
    · exact (orderly.parentsFirst child parent member extend).trans (List.sublist_append_left _ _)
    · obtain rfl := List.mem_singleton.1 member
      have resolved := above parent ((extends_iff parent).1 extend)
      exact (List.singleton_sublist.2 resolved).append (List.Sublist.refl [part.name])
  case mergedOnce =>
    have single : (mergedLinks (Resolution.completion descriptor part)).Nodup := by
      rw [mergedLinks_completion]
      cases descriptor.parent <;> simp
    rw [mergedLinks_append, List.nodup_append]
    refine ⟨orderly.mergedOnce, single, ?_⟩
    rintro ⟨child, parent⟩ member _ last rfl
    have same := ((link_iff child parent).1 last).1
    exact fresh (same ▸ ((orderly.merged_iff child parent).1 member).1)
  case merged_iff =>
    intro child parent
    rw [names, mergedLinks_append, List.mem_append, List.mem_append, List.mem_singleton,
      orderly.merged_iff, link_iff, or_and_right]
    refine or_congr_right (and_congr_right fun same => ?_)
    rw [same, extends_iff]
  case mergedNext =>
    intro child parent merged
    rw [mergedLinks_append] at merged
    rcases List.mem_append.1 merged with merged | merged
    · obtain ⟨methods, properties, events, adjacent⟩ := orderly.mergedNext child parent merged
      exact ⟨methods, properties, events, adjacent.trans (List.prefix_append log _).isInfix⟩
    · obtain ⟨rfl, extend⟩ := (link_iff child parent).1 merged
      refine ⟨part.methods.size, part.properties.size, part.events.size, ?_⟩
      rw [Resolution.completion, extend]
      exact (List.suffix_append log _).isInfix
  case claimedOnce => exact claims ▸ orderly.claimedOnce
  case claimedFirst =>
    intro other later member listed about
    rw [claims] at member
    rcases List.mem_append.1 listed with listed | listed
    · exact (orderly.claimedFirst other later member listed about).trans
        (List.sublist_append_left _ _)
    · have claimed := claimedDefault_mem member
      exact (List.singleton_sublist.2 claimed).append (List.singleton_sublist.2 listed)

end Orderly

/-! ## The notices of one part -/

variable {state : State}

/-- Members are taken over with one notice where there is a parent. -/
theorem withInherited_eq
    (above : ∀ parent, descriptor.parent = some parent → parent ∈ state.resolved.keys) :
    withInherited descriptor state (descriptor.toPart name) =
      ⟨(descriptor.parent.map (Notice.mergedInherited name)).toList,
        .ok (completed name descriptor state.resolved)⟩ := by
  cases extend : descriptor.parent with
  | none => simp [withInherited, completed, extend, Traced.ok]
  | some parent =>
      obtain ⟨part, found⟩ := OrderedMap.exists_get?_of_mem_keys (above parent extend)
      simp [withInherited, completed, extend, found, Traced.bind, Traced.tell, Traced.ok,
        PartDescriptor.toPart]

theorem name_completed (name : String) (descriptor : PartDescriptor)
    (resolved : OrderedMap String Part) : (completed name descriptor resolved).name = name := by
  rw [completed]
  split <;> rfl

/-- The ways in which completing a part can go, with their notices. -/
inductive Narrates (name : String) (descriptor : PartDescriptor) (state : State) :
    Traced PartFault State → Prop where
  | silent {fault : PartFault} : Narrates name descriptor state ⟨[], .error fault⟩
  | claimed {fault : PartFault} :
      (descriptor.isDefault = true → state.defaultPart = none) →
      Narrates name descriptor state ⟨claim name descriptor, .error fault⟩
  | done :
      (descriptor.isDefault = true → state.defaultPart = none) →
      Narrates name descriptor state
        ⟨claim name descriptor ++ completion descriptor (completed name descriptor state.resolved),
          .ok (state.advance name descriptor)⟩

/-- Completing the part on top of the stack goes in one of these ways. -/
theorem complete_narrates (sound : state.Sound all) (ready : state.Ready all name descriptor) :
    Narrates name descriptor state (complete name descriptor state) := by
  by_cases free : descriptor.isDefault = true → state.defaultPart = none
  · have claims : claimDefault name descriptor state = _ := claimDefault_of_free free
    cases faults : descriptor.malformed with
    | cons fault later =>
        obtain ⟨location, found⟩ := fault
        have stopped : complete name descriptor state =
            ⟨claim name descriptor, .error (.malformedEntry name location found)⟩ := by
          simp [complete, claims, ownMembers, faults, Traced.bind, Traced.fail]
        exact stopped ▸ .claimed free
    | nil =>
        have merges : withInherited descriptor
            { state with
              defaultPart := if descriptor.isDefault then some name else state.defaultPart }
            (descriptor.toPart name) = _ := withInherited_eq ready.parent
        by_cases empty : (completed name descriptor state.resolved).events.entries = []
        · -- Only a part without parent can be left without events, so nothing was merged.
          obtain ⟨alone, -⟩ := sound.eq_none_of_events_eq_nil ready empty
          have stopped : complete name descriptor state =
              ⟨claim name descriptor, .error (.noEvents name)⟩ := by
            simp [complete, claims, ownMembers, faults, merges, alone,
              OrderedMap.isEmpty_iff.2 empty, Traced.bind, Traced.ok, Traced.fail]
          exact stopped ▸ .claimed free
        · have present : (completed name descriptor state.resolved).events.isEmpty = false :=
            Bool.eq_false_iff.2 fun none => empty (OrderedMap.isEmpty_iff.1 none)
          have finished : complete name descriptor state =
              ⟨claim name descriptor ++
                completion descriptor (completed name descriptor state.resolved),
                .ok (state.advance name descriptor)⟩ := by
            simp [complete, claims, ownMembers, faults, merges, present, completion,
              name_completed, Traced.bind, Traced.tell, Traced.ok, State.advance, State.pop,
              State.store]
          exact finished ▸ .done free
  · obtain ⟨flag, taken⟩ := Classical.not_imp.1 free
    obtain ⟨first, taken⟩ := Option.ne_none_iff_exists'.1 taken
    have stopped : complete name descriptor state =
        ⟨[], .error (.duplicateDefault first name)⟩ := by
      rw [complete, Traced.bind_eq, claimDefault_of_taken flag taken, Traced.bind_fail]
      rfl
    exact stopped ▸ .silent

/-! ## The notices of a run -/

/-- A log that tells how far resolving has come. -/
structure Chronicle (all : Descriptors) (log : List Notice) (state : State) : Prop where
  orderly : Orderly all log
  resolved : resolvedNames log = state.resolved.keys
  claimed : claimedNames log = state.defaultPart.toList
  tallies : Tallies log state.resolved

/-- A computation extends a log to one that tells the state it reaches, or to one that breaks
off. -/
def Continues (all : Descriptors) (log : List Notice) (traced : Traced PartFault State) : Prop :=
  match traced.result with
  | .ok after => Chronicle all (log ++ traced.notices) after
  | .error _ => Orderly all (log ++ traced.notices) ∧ BreaksOff all (log ++ traced.notices)

theorem BreaksOff.of_resolvedNames_eq {log' : List Notice} (breaks : BreaksOff all log)
    (same : resolvedNames log' = resolvedNames log) : BreaksOff all log' where
  declared := same ▸ breaks.declared
  missing := same ▸ breaks.missing
  closed := same ▸ breaks.closed

namespace Chronicle

theorem initial (all : Descriptors) : Chronicle all [] .initial where
  orderly := .nil all
  resolved := rfl
  claimed := rfl
  tallies := by simp [Tallies]

/-- A name on the stack leaves no notice. -/
theorem push (chronicle : Chronicle all log state) (name : String) :
    Chronicle all log (state.push name) :=
  ⟨chronicle.orderly, chronicle.resolved, chronicle.claimed, chronicle.tallies⟩

/-- The log may end as long as a declared name is not resolved. -/
theorem breaksOff (chronicle : Chronicle all log state) (sound : state.Sound all)
    (declared : name ∈ all.keys) (unresolved : name ∉ state.resolved.keys) :
    BreaksOff all log where
  declared := by
    intro other member
    exact sound.mem_keys (chronicle.resolved ▸ member)
  missing := ⟨name, declared, chronicle.resolved ▸ unresolved⟩
  closed := chronicle.resolved ▸ sound.closed

theorem unclaimed (chronicle : Chronicle all log state)
    (free : descriptor.isDefault = true → state.defaultPart = none) :
    descriptor.isDefault = true → claimedNames log = [] := by
  intro flag
  rw [chronicle.claimed, free flag]
  rfl

/-- The entry of the part on top of the stack leads to the next state. -/
theorem advance (chronicle : Chronicle all log state) (sound : state.Sound all)
    (ready : state.Ready all name descriptor)
    (free : descriptor.isDefault = true → state.defaultPart = none) :
    Chronicle all (log ++ (claim name descriptor ++
      completion descriptor (completed name descriptor state.resolved)))
      (state.advance name descriptor) := by
  have named := name_completed name descriptor state.resolved
  have unresolved := sound.unresolved ready
  have fresh : name ∉ resolvedNames log := chronicle.resolved ▸ unresolved
  have unclaimed := chronicle.unclaimed free
  have names := resolvedNames_append_claim log name descriptor
  rw [← List.append_assoc]
  constructor
  case orderly =>
    refine (chronicle.orderly.claim fresh unclaimed).completion ?_ ?_ ?_
    · exact named.symm ▸ ready.found
    · rw [named, names]
      exact fresh
    · rw [names, chronicle.resolved]
      exact ready.parent
  case resolved =>
    rw [resolvedNames_append_completion, names, named, chronicle.resolved, State.advance,
      OrderedMap.keys_insert, if_neg unresolved]
  case claimed =>
    rw [claimedNames_append_completion, claimedNames_append_claim, State.advance]
    cases flag : descriptor.isDefault with
    | false => simpa using chronicle.claimed
    | true => simp [unclaimed flag]
  case tallies =>
    intro other methods properties events member
    rw [State.advance, OrderedMap.get?_insert]
    rcases List.mem_append.1 member with member | member
    · have earlier : Notice.resolved other methods properties events ∈ log := by
        simpa [claim] using member
      have told : other ∈ resolvedNames log := List.mem_filterMap.2 ⟨_, earlier, rfl⟩
      have apart : other ≠ name := fun same => fresh (same ▸ told)
      rw [if_neg apart]
      exact chronicle.tallies other methods properties events earlier
    · simp only [completion, named, List.mem_append, Option.mem_toList, Option.map_eq_some_iff,
        reduceCtorEq, and_false, exists_false, false_or, List.mem_singleton,
        Notice.resolved.injEq] at member
      obtain ⟨rfl, rfl, rfl, rfl⟩ := member
      exact ⟨_, if_pos rfl, rfl, rfl, rfl⟩

end Chronicle

theorem Continues.bind {first : Traced PartFault State} {next : State → Traced PartFault State}
    (continues : Continues all log first)
    (goesOn : ∀ middle, first.result = .ok middle → Chronicle all (log ++ first.notices) middle →
      Continues all (log ++ first.notices) (next middle)) :
    Continues all log (first.bind next) := by
  cases outcome : first.result with
  | error fault => simpa [Continues, Traced.bind, outcome] using continues
  | ok middle =>
      have reached : Chronicle all (log ++ first.notices) middle := by
        simpa [Continues, outcome] using continues
      simpa [Continues, Traced.bind, outcome] using goesOn middle outcome reached

/-- Completing a part continues the log. -/
theorem complete_continues (chronicle : Chronicle all log state) (sound : state.Sound all)
    (ready : state.Ready all name descriptor) :
    Continues all log (complete name descriptor state) := by
  have declared := OrderedMap.mem_keys_of_get? ready.found
  have unresolved := sound.unresolved ready
  have breaks := chronicle.breaksOff sound declared unresolved
  have narrates := complete_narrates sound ready
  generalize complete name descriptor state = traced at narrates
  cases narrates with
  | silent => simpa [Continues] using ⟨chronicle.orderly, breaks⟩
  | claimed free =>
      have fresh : name ∉ resolvedNames log := chronicle.resolved ▸ unresolved
      have names := resolvedNames_append_claim log name descriptor
      exact ⟨chronicle.orderly.claim fresh (chronicle.unclaimed free),
        breaks.of_resolvedNames_eq names⟩
  | done free => exact chronicle.advance sound ready free

/-- A call for a name that the top of the stack extends continues the log. -/
theorem resolvePart_continues (declared : all.get? name = some descriptor) (sound : state.Sound all)
    (awaited : ∀ top ∈ state.inProgress.getLast?, all.Extends top name)
    (chronicle : Chronicle all log state) :
    Continues all log (resolvePart all name descriptor declared state) := by
  fun_induction resolvePart all name descriptor declared state with
  | case1 name descriptor declared state resolved => simpa [Continues, Traced.ok] using chronicle
  | case2 name descriptor declared state unresolved again =>
      have breaks := chronicle.breaksOff sound (OrderedMap.mem_keys_of_get? declared)
        (sound.apart name again)
      simpa [Continues, Traced.fail] using ⟨chronicle.orderly, breaks⟩
  | case3 name descriptor declared state unresolved fresh alone =>
      have pushed := sound.push (OrderedMap.mem_keys_of_get? declared)
        (by simpa using unresolved) fresh awaited
      exact complete_continues (chronicle.push name) pushed (State.ready_push declared alone)
  | case4 name descriptor declared state unresolved fresh parent extend unknown =>
      have breaks := chronicle.breaksOff sound (OrderedMap.mem_keys_of_get? declared)
        (by simpa using unresolved)
      simpa [Continues, Traced.fail] using ⟨chronicle.orderly, breaks⟩
  | case5 name descriptor declared state unresolved fresh parent extend above known ih =>
      have pushed := sound.push (OrderedMap.mem_keys_of_get? declared)
        (by simpa using unresolved) fresh awaited
      have next : ∀ top ∈ (state.push name).inProgress.getLast?, all.Extends top parent :=
        State.extends_of_getLast?_push declared extend
      have inner := resolvePart_delivers known pushed next
      refine (ih pushed next (chronicle.push name)).bind fun middle outcome reached => ?_
      rw [outcome] at inner
      have ready := inner.ready declared extend (OrderedMap.mem_keys_of_get? known)
      exact complete_continues reached inner.sound ready

/-- Calls for several names, one after another, continue the log when the stack is empty. -/
theorem resolveEach_continues {names : List String} (sound : state.Sound all)
    (idle : state.inProgress = []) (chronicle : Chronicle all log state) :
    Continues all log (resolveEach all names state) := by
  induction names generalizing state log with
  | nil => simpa [resolveEach, Continues, Traced.ok] using chronicle
  | cons name names ih =>
      cases declared : all.get? name with
      | none =>
          rw [resolveEach_of_unknown declared]
          exact ih sound idle chronicle
      | some descriptor =>
          rw [resolveEach_of_known declared]
          have awaited : ∀ top ∈ state.inProgress.getLast?, all.Extends top name := by simp [idle]
          have first := resolvePart_delivers declared sound awaited
          refine (resolvePart_continues declared sound awaited chronicle).bind
            fun middle outcome reached => ?_
          rw [outcome] at first
          exact ih first.sound (first.stack.trans idle) reached

/-- The log of a run that has come to its end accounts for the outcome. -/
theorem Chronicle.accounts (chronicle : Chronicle all log state) (sound : state.Sound all)
    (complete : ∀ name ∈ all.keys, name ∈ state.resolved.keys) :
    Accounts all log (ofState all state) where
  names := by
    refine (List.perm_ext_iff_of_nodup chronicle.orderly.resolvedOnce all.nodup_keys).2 ?_
    rw [chronicle.resolved]
    exact fun name => ⟨sound.mem_keys, complete name⟩
  tallies := by
    intro name methods properties events member
    obtain ⟨part, found, sizes⟩ := chronicle.tallies name methods properties events member
    have declared := sound.mem_keys (OrderedMap.mem_keys_of_get? found)
    exact ⟨part, (get?_ofState declared).trans found, sizes⟩
  claimed := chronicle.claimed

end Resolution

/-- The notices of a run are in order.  They account for the outcome if it succeeds, and if it fails
they break off. -/
theorem Descriptors.orderly_notices (all : Descriptors) :
    Resolution.Orderly all all.resolveTraced.notices ∧
      match all.resolveTraced.result with
      | .ok resolution => Resolution.Accounts all all.resolveTraced.notices resolution
      | .error _ => Resolution.BreaksOff all all.resolveTraced.notices := by
  have continues : Resolution.Continues all [] (Resolution.resolveEach all all.keys .initial) :=
    Resolution.resolveEach_continues (Resolution.State.sound_initial all) rfl (.initial all)
  have delivers := Resolution.resolveAll_delivers all
  have run : all.resolveTraced = (Resolution.resolveEach all all.keys .initial).bind fun state =>
      .ok (Resolution.ofState all state) := rfl
  rw [Resolution.Continues, List.nil_append] at continues
  rw [run, Traced.result_bind]
  cases outcome : (Resolution.resolveEach all all.keys .initial).result with
  | error fault =>
      rw [outcome] at continues
      rw [Traced.notices_bind_of_error _ outcome]
      exact continues
  | ok state =>
      rw [outcome] at continues delivers
      rw [Traced.notices_bind_of_ok _ outcome, Traced.ok, List.append_nil]
      have complete : ∀ name ∈ all.keys, name ∈ state.resolved.keys := fun name listed =>
        delivers.added name listed listed
      exact ⟨continues.orderly, continues.accounts delivers.sound complete⟩

example : Descriptors.lampFamily.resolveTraced.notices =
    [.claimedDefault "Base", .resolved "Base" 0 2 1,
      .mergedInherited "Device" "Base", .resolved "Device" 2 2 1,
      .mergedInherited "Lamp" "Device", .resolved "Lamp" 2 2 1] := by
  decide +kernel

end PartDefs
