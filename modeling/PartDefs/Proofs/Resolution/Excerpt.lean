import Mathlib.Data.List.Perm.Subperm
import PartDefs.Luau.Declaration
import PartDefs.Proofs.Resolution.Members

/-!
# Excerpts

An excerpt of a mapping has some of its parts, in any order, and with each of them its parent.
Resolution may visit these parts in another order than in the whole, find other names in its memo
and see the default at another time.  None of this shows: every part of the excerpt has the same
line as in the whole, and so it is declared by the same text.
-/

namespace PartDefs

/-- Some entries of a mapping, in any order, such that no part extends one that is left out. -/
structure Descriptors.Excerpt (all excerpt : Descriptors) : Prop where
  entries : excerpt.entries.Subperm all.entries
  closed : ∀ child parent, excerpt.Extends child parent → parent ∈ all.keys →
    parent ∈ excerpt.keys

/-- The second of two outputs has the given names in their order, each with the text that the first
one has for it, and the default of the first one if that is among the names. -/
structure Generated.CutsTo (generated : Generated) (names : List String) (other : Generated) :
    Prop where
  keys : other.declarations.keys = names
  texts : ∀ name ∈ names, ∃ text, other.declarations.get? name = some text ∧
    generated.declarations.get? name = some text
  default : other.defaultPart = generated.defaultPart.filter (· ∈ names)

namespace Descriptors
namespace Excerpt

variable {all excerpt : Descriptors} {name : String}

theorem get?_of_get? {descriptor : PartDescriptor} (cut : all.Excerpt excerpt)
    (found : excerpt.get? name = some descriptor) : all.get? name = some descriptor :=
  OrderedMap.get?_eq_some_iff.2 (cut.entries.subset (OrderedMap.get?_eq_some_iff.1 found))

/-- The excerpt says nothing else about its parts than the whole does. -/
theorem get?_eq (cut : all.Excerpt excerpt) (listed : name ∈ excerpt.keys) :
    excerpt.get? name = all.get? name := by
  obtain ⟨descriptor, found⟩ := OrderedMap.exists_get?_of_mem_keys listed
  rw [found, cut.get?_of_get? found]

theorem mem_keys (cut : all.Excerpt excerpt) (listed : name ∈ excerpt.keys) :
    name ∈ all.keys := by
  obtain ⟨descriptor, found⟩ := OrderedMap.exists_get?_of_mem_keys listed
  exact OrderedMap.mem_keys_of_get? (cut.get?_of_get? found)

theorem extends_of_extends {child parent : String} (cut : all.Excerpt excerpt)
    (extend : excerpt.Extends child parent) : all.Extends child parent := by
  obtain ⟨descriptor, found, named⟩ := extend
  exact ⟨descriptor, cut.get?_of_get? found, named⟩

theorem flagged_iff (cut : all.Excerpt excerpt) :
    excerpt.Flagged name ↔ all.Flagged name ∧ name ∈ excerpt.keys := by
  constructor
  · rintro ⟨descriptor, found, flag⟩
    exact ⟨⟨descriptor, cut.get?_of_get? found, flag⟩, OrderedMap.mem_keys_of_get? found⟩
  · rintro ⟨⟨descriptor, found, flag⟩, listed⟩
    exact ⟨descriptor, (cut.get?_eq listed).trans found, flag⟩

/-- A line of the excerpt is a line of the whole. -/
theorem lineage {line : List Link} (cut : all.Excerpt excerpt)
    (lineage : excerpt.Lineage name line) : all.Lineage name line := by
  induction lineage with
  | root found alone => exact .root (cut.get?_of_get? found) alone
  | child found extend _ ih => exact .child (cut.get?_of_get? found) extend ih

theorem resolvable (cut : all.Excerpt excerpt) (whole : all.Resolvable) :
    excerpt.Resolvable where
  parents := by
    intro child parent extend
    exact cut.closed child parent extend
      (whole.parents child parent (cut.extends_of_extends extend))
  acyclic := by
    intro name loop
    exact whole.acyclic name (loop.lift id fun _ _ => cut.extends_of_extends)
  oneDefault := by
    intro first second one other
    exact whole.oneDefault first second (cut.flagged_iff.1 one).1 (cut.flagged_iff.1 other).1
  wellFormed := by
    intro name descriptor found
    exact whole.wellFormed name descriptor (cut.get?_of_get? found)
  events := by
    intro name descriptor found
    exact whole.events name descriptor (cut.get?_of_get? found)

/-! ## Two runs -/

variable {resolution other : Resolution}

/-- A part of the excerpt results from the same line as in the whole. -/
theorem get?_parts_eq (cut : all.Excerpt excerpt) (whole : all.resolve = .ok resolution)
    (selected : excerpt.resolve = .ok other) (listed : name ∈ excerpt.keys) :
    other.parts.get? name = resolution.parts.get? name := by
  obtain ⟨line, settled, result⟩ := exists_settled_of_resolve_eq_ok selected listed
  obtain ⟨line', settled', result'⟩ :=
    exists_settled_of_resolve_eq_ok whole (cut.mem_keys listed)
  obtain rfl := settled'.lineage.unique (cut.lineage settled.lineage)
  rw [result, result']

theorem defaultPart_eq (cut : all.Excerpt excerpt) (whole : all.resolve = .ok resolution)
    (selected : excerpt.resolve = .ok other) :
    other.defaultPart = resolution.defaultPart.filter (· ∈ excerpt.keys) := by
  refine Option.ext fun name => ?_
  rw [Option.filter_eq_some_iff, decide_eq_true_iff, defaultPart_eq_some_iff selected,
    defaultPart_eq_some_iff whole]
  exact cut.flagged_iff

end Excerpt

/-- What is generated for an excerpt is what is generated for the whole, cut down to the names of
the excerpt in their order. -/
theorem generate_excerpt {all excerpt : Descriptors} {resolution : Resolution}
    (cut : all.Excerpt excerpt) (whole : all.resolve = .ok resolution) (config : Config) :
    ∃ generated other, all.generate config = .ok generated ∧
      excerpt.generate config = .ok other ∧ generated.CutsTo excerpt.keys other := by
  have resolvable : excerpt.Resolvable := cut.resolvable (resolvable_of_resolve_eq_ok whole)
  obtain ⟨other, success⟩ := resolvable.resolve_eq_ok
  refine ⟨resolution.declare config, other.declare config, ?_, ?_, ?_, ?_, ?_⟩
  · rw [generate_eq, whole]
    rfl
  · rw [generate_eq, success]
    rfl
  · exact (OrderedMap.keys_map _ _).trans (keys_of_resolve_eq_ok success)
  · intro name listed
    obtain ⟨line, -, result⟩ := exists_settled_of_resolve_eq_ok success listed
    have result' := (cut.get?_parts_eq whole success listed).symm.trans result
    refine ⟨Luau.declaration config (inheritAlong line), ?_, ?_⟩
    · simp [Resolution.declare, result]
    · simp [Resolution.declare, result']
  · exact cut.defaultPart_eq whole success

/-- The lamp's ancestors without the lamp, the child before its parent. -/
def lampAncestors : Descriptors := .ofList
  [("Device",
      { parent := some "Base"
        methods := .ofList [("Configure", {}), ("Switch", { returns := some "boolean" })] }),
    ("Base",
      { isDefault := true
        properties := .ofList [("Name", "string"), ("Power", "string")]
        events := .ofList [("Ready", [])] })]

theorem excerpt_lampAncestors : lampFamily.Excerpt lampAncestors where
  entries := by
    have listed : lampAncestors.entries ⊆ lampFamily.entries := by decide +kernel
    exact List.subperm_of_subset lampAncestors.nodup_entries listed
  closed := by
    rintro child parent ⟨descriptor, found, extend⟩ -
    have linked : ∀ entry ∈ lampAncestors.entries, ∀ parent ∈ entry.2.parent,
        parent ∈ lampAncestors.keys := by decide +kernel
    exact linked _ (OrderedMap.get?_eq_some_iff.1 found) parent extend

/-- The ancestors of the lamp are declared without it as they are declared beside it. -/
theorem lampFamily_cutsTo_lampAncestors :
    lampFamily.Excerpt lampAncestors ∧ lampFamily.resolve = .ok .lampFamily ∧
      ∃ generated other, lampFamily.generate {} = .ok generated ∧
        lampAncestors.generate {} = .ok other ∧
        generated.CutsTo ["Device", "Base"] other := by
  have success : lampFamily.resolve = .ok .lampFamily := by decide +kernel
  exact ⟨excerpt_lampAncestors, success, generate_excerpt excerpt_lampAncestors success {}⟩

end Descriptors
end PartDefs
