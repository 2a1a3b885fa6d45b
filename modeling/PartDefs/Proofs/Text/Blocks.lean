import PartDefs.Proofs.Text.Lines

/-!
# Blocks of text

Trimmed blocks put below each other.  Bringing the whole into normal layout does to each block what
collapsing does to it alone, and drops the empty blocks: at the edges of a block the pass never
meets two newlines that do not belong to an empty one.
-/

namespace PartDefs.Text

/-- A text that is not empty and starts and ends with characters that are not blank. -/
structure Solid (text : List Char) : Prop where
  trimmed : IsTrimmed text
  nonempty : text ≠ []

namespace Solid

variable {text front back : List Char}

theorem append (solid : Solid front) (solid' : Solid back) (middle : List Char) :
    Solid (front ++ middle ++ back) where
  trimmed := solid.trimmed.append solid'.trimmed middle solid.nonempty solid'.nonempty
  nonempty := by simp [solid.nonempty]

theorem of_singleton {c : Char} (solid : isBlank c = false) : Solid [c] :=
  ⟨⟨by simpa using solid, by simpa using solid⟩, List.cons_ne_nil _ _⟩

theorem of_ends {first last : Char} (starts : text.head? = some first)
    (ends : text.getLast? = some last) (visible : isBlank first = false)
    (visible' : isBlank last = false) : Solid text where
  trimmed := ⟨by simpa [starts] using visible, by simpa [ends] using visible'⟩
  nonempty := by
    rintro rfl
    cases starts

/-- Separators do not come to stand at an end. -/
theorem intercalate {pieces : List (List Char)} (separator : List Char) (present : pieces ≠ [])
    (solid : ∀ piece ∈ pieces, Solid piece) : Solid (separator.intercalate pieces) := by
  induction pieces with
  | nil => exact absurd rfl present
  | cons piece pieces ih =>
      obtain ⟨here, later⟩ := List.forall_mem_cons.1 solid
      by_cases single : pieces = []
      · rw [single, List.intercalate_singleton]
        exact here
      · rw [List.intercalate_cons_of_ne_nil single]
        exact here.append (ih single later) separator

theorem head?_ne_newline (solid : Solid text) : text.head? ≠ some '\n' := by
  intro first
  have visible := solid.trimmed.first _ first
  simp at visible

theorem getLast?_ne_newline (solid : Solid text) : text.getLast? ≠ some '\n' := by
  intro last
  have visible := solid.trimmed.last _ last
  simp at visible

end Solid

/-- Trimmed blocks, each empty one being followed by one that is not. -/
inductive Spaced : List (List Char) → Prop where
  | nil : Spaced []
  | solid {block : List Char} {blocks : List (List Char)} :
      Solid block → Spaced blocks → Spaced (block :: blocks)
  | gap {block : List Char} {blocks : List (List Char)} :
      Solid block → Spaced blocks → Spaced ([] :: block :: blocks)

/-- The blocks that are not empty below each other, each of them collapsed. -/
def tidy (blocks : List (List Char)) : List Char :=
  unlines ((blocks.map collapse).filter (· ≠ []))

@[simp]
theorem tidy_nil_cons (blocks : List (List Char)) : tidy ([] :: blocks) = tidy blocks := by
  simp [tidy]

theorem tidy_cons {block : List Char} (nonempty : block ≠ []) (blocks : List (List Char)) :
    tidy (block :: blocks) = collapse block ++ '\n' :: tidy blocks := by
  have kept : collapse block ≠ [] := mt collapse_eq_nil_iff.1 nonempty
  simp [tidy, kept]

namespace Spaced

variable {block : List Char} {blocks : List (List Char)}

/-- In front of a block that is not empty there may be any trimmed one. -/
theorem cons_cons {front : List Char} (trimmed : IsTrimmed front) (solid : Solid block)
    (spaced : Spaced blocks) : Spaced (front :: block :: blocks) := by
  by_cases empty : front = []
  · subst empty
    exact .gap solid spaced
  · exact .solid ⟨trimmed, empty⟩ (.solid solid spaced)

/-- Behind a newline the pass starts with the next block afresh. -/
theorem collapse_newline_unlines (spaced : Spaced blocks) :
    collapse ('\n' :: unlines blocks) = '\n' :: tidy blocks := by
  induction spaced with
  | nil => rfl
  | @solid block blocks solid _ ih =>
      have fresh : (unlines (block :: blocks)).head? ≠ some '\n' := by
        obtain ⟨c, rest, rfl⟩ := List.exists_cons_of_ne_nil solid.nonempty
        simpa using solid.head?_ne_newline
      rw [collapse_cons_newline fresh, unlines_cons, collapse_append solid.getLast?_ne_newline,
        ih, tidy_cons solid.nonempty]
  | @gap block blocks solid _ ih =>
      rw [unlines_cons, unlines_cons, List.nil_append, collapse_pair,
        collapse_append solid.getLast?_ne_newline, ih, tidy_nil_cons, tidy_cons solid.nonempty]

theorem collapse_unlines_cons (spaced : Spaced blocks) (solid : Solid block) :
    collapse (unlines (block :: blocks)) = tidy (block :: blocks) := by
  rw [unlines_cons, collapse_append solid.getLast?_ne_newline, spaced.collapse_newline_unlines,
    tidy_cons solid.nonempty]

/-- Without its last newline, what starts with a block that is not empty is solid. -/
theorem exists_unlines_eq (spaced : Spaced blocks) (solid : Solid block) :
    ∃ body, Solid body ∧ unlines (block :: blocks) = body ++ ['\n'] := by
  induction spaced generalizing block with
  | nil => exact ⟨block, solid, by simp⟩
  | solid solid' _ ih =>
      obtain ⟨body, solid', split⟩ := ih solid'
      refine ⟨_, solid.append solid' ['\n'], ?_⟩
      rw [unlines_cons, split]
      simp
  | gap solid' _ ih =>
      obtain ⟨body, solid', split⟩ := ih solid'
      refine ⟨_, solid.append solid' ['\n', '\n'], ?_⟩
      rw [unlines_cons, unlines_cons, split]
      simp

theorem normalize_unlines_cons (spaced : Spaced blocks) (solid : Solid block) :
    normalize (unlines (block :: blocks)) = tidy (block :: blocks) := by
  obtain ⟨body, solid', split⟩ := spaced.exists_unlines_eq solid
  calc
    normalize (unlines (block :: blocks)) = collapse body ++ ['\n'] := by
      rw [normalize, split, trim_concat_of_isBlank isBlank_newline, trim_eq_self solid'.trimmed]
    _ = collapse (unlines (block :: blocks)) := by
      rw [split, collapse_append solid'.getLast?_ne_newline]
      rfl
    _ = tidy (block :: blocks) := spaced.collapse_unlines_cons solid

/-- Normal layout is reached block by block. -/
theorem normalize_unlines (spaced : Spaced blocks) (present : blocks ≠ []) :
    normalize (unlines blocks) = tidy blocks := by
  cases spaced with
  | nil => exact absurd rfl present
  | solid solid later => exact later.normalize_unlines_cons solid
  | gap solid later =>
      rw [tidy_nil_cons, ← later.normalize_unlines_cons solid, unlines_cons, List.nil_append,
        normalize, trim_cons_of_isBlank isBlank_newline, normalize]

end Spaced

end PartDefs.Text
