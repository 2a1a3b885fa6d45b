import PartDefs.Proofs.Resolution.Walk

/-!
# The outcome of resolution

Resolution succeeds exactly on the mappings that satisfy five conditions, none of which speaks of
an order or of what has been visited.  When it fails, the fault that it reports is really there.
-/

namespace PartDefs

/-! ## The end of a run -/

/-- A run ends in a sound state with all parts resolved, or with a witnessed fault. -/
theorem Descriptors.resolve_outcome (all : Descriptors) :
    (∃ state : Resolution.State, state.Sound all ∧
      (∀ name ∈ all.keys, name ∈ state.resolved.keys) ∧
      all.resolve = .ok (Resolution.ofState all state)) ∨
    ∃ fault, fault.Witnessed all ∧ all.resolve = .error fault := by
  have delivers := Resolution.resolveAll_delivers all
  rw [resolve_eq]
  cases outcome : (Resolution.resolveEach all all.keys .initial).result with
  | error fault =>
      rw [outcome] at delivers
      exact Or.inr ⟨fault, delivers, rfl⟩
  | ok state =>
      rw [outcome] at delivers
      have complete : ∀ name ∈ all.keys, name ∈ state.resolved.keys := fun name listed =>
        delivers.added name listed listed
      exact Or.inl ⟨state, delivers.sound, complete, rfl⟩

/-- A success comes from a sound state in which all parts are resolved. -/
theorem Descriptors.exists_sound_of_resolve_eq_ok {all : Descriptors} {resolution : Resolution}
    (success : all.resolve = .ok resolution) :
    ∃ state : Resolution.State, state.Sound all ∧
      (∀ name ∈ all.keys, name ∈ state.resolved.keys) ∧
      resolution = Resolution.ofState all state := by
  rcases all.resolve_outcome with ⟨state, sound, complete, final⟩ | ⟨fault, -, failure⟩
  · exact ⟨state, sound, complete, Except.ok.inj (success.symm.trans final)⟩
  · rw [failure] at success
    cases success

/-! ## Acceptance -/

/-- What a mapping must satisfy to be resolved. -/
structure Descriptors.Resolvable (all : Descriptors) : Prop where
  /-- Every parent that is named is declared. -/
  parents : ∀ child parent, all.Extends child parent → parent ∈ all.keys
  /-- No part reaches itself through one or more parents. -/
  acyclic : ∀ name, ¬Relation.TransGen all.Extends name name
  /-- At most one part claims to be the default. -/
  oneDefault : ∀ first second, all.Flagged first → all.Flagged second → first = second
  /-- In every part each entry that counts holds exactly one pair. -/
  wellFormed : ∀ name descriptor, all.get? name = some descriptor → descriptor.WellFormed
  /-- Every part without parent has an event of its own. -/
  events : ∀ name descriptor, all.get? name = some descriptor → descriptor.parent = none →
    descriptor.events.entries ≠ []

/-- A linked list of names that ends where it starts is a cycle. -/
theorem exists_transGen_of_isChain {α : Type} {R : α → α → Prop} {chain : List α}
    (long : 2 ≤ chain.length) (closed : chain.head? = chain.getLast?) (linked : chain.IsChain R) :
    ∃ start, Relation.TransGen R start start := by
  match chain, long with
  | start :: next :: rest, _ =>
      obtain ⟨first, later⟩ := List.isChain_cons_cons.1 linked
      have returns : (next :: rest).getLast (List.cons_ne_nil _ _) = start := by
        have last : some start = (start :: next :: rest).getLast? := closed
        rw [List.getLast?_cons_cons, List.getLast?_eq_some_getLast (List.cons_ne_nil _ _)] at last
        exact (Option.some.inj last).symm
      have above : Relation.ReflTransGen R next start :=
        List.relationReflTransGen_of_exists_isChain_cons rest later returns
      exact ⟨start, .head' first above⟩

theorem Descriptors.Resolvable.not_witnessed {all : Descriptors} (resolvable : all.Resolvable)
    (fault : PartFault) : ¬fault.Witnessed all := by
  cases fault with
  | unknownParent part parent =>
      rintro ⟨extend, unknown⟩
      exact unknown (resolvable.parents part parent extend)
  | duplicateDefault first second =>
      rintro ⟨apart, one, other, -⟩
      exact apart (resolvable.oneDefault first second one other)
  | noEvents part =>
      rintro ⟨⟨descriptor, found, alone, empty⟩, -⟩
      exact resolvable.events part descriptor found alone empty
  | malformedEntry part location found =>
      rintro ⟨⟨descriptor, declared, before, entry, after, split, -, size, wrong⟩, -⟩
      have wellFormed := resolvable.wellFormed part descriptor declared
      have listed : (location, entry) ∈ descriptor.checked := by simp [split]
      exact wrong (size ▸ PartDescriptor.wellFormed_iff.1 wellFormed _ listed)
  | cyclic chain =>
      rintro ⟨long, closed, -, -, linked⟩
      obtain ⟨start, cycle⟩ := exists_transGen_of_isChain long closed linked
      exact resolvable.acyclic start cycle

/-- A state in which all parts are resolved shows that the mapping satisfies the conditions. -/
theorem Resolution.State.Sound.resolvable {all : Descriptors} {state : State}
    (sound : state.Sound all) (complete : ∀ name ∈ all.keys, name ∈ state.resolved.keys) :
    all.Resolvable where
  parents := by
    intro child parent extend
    exact sound.mem_keys (sound.closed _ _ (complete _ extend.mem_keys) extend)
  acyclic := by
    intro name cycle
    have declared : name ∈ all.keys := by
      obtain ⟨_, extend, -⟩ := Relation.TransGen.head'_iff.1 cycle
      exact extend.mem_keys
    obtain ⟨_, settled⟩ := sound.exists_settled (complete name declared)
    exact settled.lineage.acyclic cycle
  oneDefault := by
    intro first second one other
    have recorded (name : String) (flagged : all.Flagged name) : state.defaultPart = some name :=
      (sound.default_iff name).2 ⟨complete name flagged.mem_keys, flagged⟩
    exact Option.some.inj ((recorded first one).symm.trans (recorded second other))
  wellFormed := by
    intro name descriptor found
    obtain ⟨_, settled⟩ := sound.exists_settled (complete name (OrderedMap.mem_keys_of_get? found))
    exact settled.wellFormed_self found
  events := by
    intro name descriptor found alone
    obtain ⟨_, settled⟩ := sound.exists_settled (complete name (OrderedMap.mem_keys_of_get? found))
    exact settled.events_of_root found alone

theorem Descriptors.resolvable_of_resolve_eq_ok {all : Descriptors} {resolution : Resolution}
    (success : all.resolve = .ok resolution) : all.Resolvable := by
  obtain ⟨state, sound, complete, -⟩ := exists_sound_of_resolve_eq_ok success
  exact sound.resolvable complete

theorem Descriptors.Resolvable.resolve_eq_ok {all : Descriptors} (resolvable : all.Resolvable) :
    ∃ resolution, all.resolve = .ok resolution := by
  rcases all.resolve_outcome with ⟨state, -, -, success⟩ | ⟨fault, witnessed, -⟩
  · exact ⟨_, success⟩
  · exact absurd witnessed (resolvable.not_witnessed fault)

/-- Resolution accepts exactly the mappings that satisfy the conditions. -/
theorem Descriptors.exists_resolve_eq_ok_iff (all : Descriptors) :
    (∃ resolution, all.resolve = .ok resolution) ↔ all.Resolvable := by
  rcases all.resolve_outcome with ⟨state, sound, complete, success⟩ | ⟨fault, witnessed, failure⟩
  · exact iff_of_true ⟨_, success⟩ (sound.resolvable complete)
  · refine iff_of_false ?_ fun resolvable => resolvable.not_witnessed fault witnessed
    rintro ⟨resolution, success⟩
    rw [failure] at success
    cases success

/-! ## Faults -/

/-- The fault that resolution reports is witnessed by the descriptors. -/
theorem Descriptors.witnessed_of_resolve_eq_error {all : Descriptors} {fault : PartFault}
    (failure : all.resolve = .error fault) : fault.Witnessed all := by
  rcases all.resolve_outcome with ⟨state, -, -, success⟩ | ⟨reported, witnessed, failure'⟩
  · rw [success] at failure
    cases failure
  · rw [failure'] at failure
    exact Except.error.inj failure ▸ witnessed

/-- A lamp whose only event has an empty second entry, below a base that is in order. -/
def Descriptors.spoiltLamp : Descriptors := .ofList
  [("Lamp",
    { parent := some "Base"
      methods := .ofList [("Configure", { arguments := [∅] })]
      events := .ofList [("Lit", [.ofList [("by", "Player")], ∅])] }),
    ("Base", { events := .ofList [("Ready", [])] })]

/-- What is declared for `Configure` is passed over, so that the event is blamed. -/
theorem Descriptors.spoiltLamp_witnessed :
    spoiltLamp.resolve = .error (.malformedEntry "Lamp" (.event "Lit") 0) ∧
      (PartFault.malformedEntry "Lamp" (.event "Lit") 0).Witnessed spoiltLamp := by
  have failure : spoiltLamp.resolve = .error (.malformedEntry "Lamp" (.event "Lit") 0) := by
    decide +kernel
  exact ⟨failure, witnessed_of_resolve_eq_error failure⟩

end PartDefs
