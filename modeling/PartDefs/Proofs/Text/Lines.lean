import PartDefs.Text.Newlines

/-!
# Separated texts

What can be read back from a text that is made of pieces.  Where a mark does not occur in the
pieces, it shows where they end, be it put behind every piece, as a newline behind every line, or
only between them.
-/

namespace PartDefs

variable {α : Type} {mark : α}

theorem forall_ne_of_notMem [DecidableEq α] {items : List α} (outside : mark ∉ items) :
    ∀ item ∈ items, decide (item ≠ mark) = true := fun _ member =>
  decide_eq_true fun same => outside (same ▸ member)

/-- A list is cut in one way only at the first occurrence of a mark. -/
theorem append_cons_inj_of_notMem {front front' back back' : List α} (outside : mark ∉ front)
    (outside' : mark ∉ front') (same : front ++ mark :: back = front' ++ mark :: back') :
    front = front' ∧ back = back' := by
  induction front generalizing front' with
  | nil =>
      cases front' with
      | nil => exact ⟨rfl, (List.cons.inj same).2⟩
      | cons first rest => exact absurd (List.cons.inj same).1 (List.ne_of_not_mem_cons outside')
  | cons first rest ih =>
      cases front' with
      | nil => exact absurd (List.cons.inj same).1.symm (List.ne_of_not_mem_cons outside)
      | cons first' rest' =>
          rw [List.cons_append, List.cons_append, List.cons.injEq] at same
          obtain ⟨rfl, same⟩ := same
          obtain ⟨rfl, rfl⟩ := ih (List.not_mem_of_not_mem_cons outside)
            (List.not_mem_of_not_mem_cons outside') same
          exact ⟨rfl, rfl⟩

/-- A text is cut in one way only at the first separator whose first character occurs nowhere
before. -/
theorem Text.append_inj_of_notMem {mark : Char} {separator front front' back back' : String}
    (starts : separator.toList.head? = some mark) (outside : mark ∉ front.toList)
    (outside' : mark ∉ front'.toList)
    (same : front ++ (separator ++ back) = front' ++ (separator ++ back')) :
    front = front' ∧ back = back' := by
  obtain ⟨gap, split⟩ := List.head?_eq_some_iff.1 starts
  have cut := congrArg String.toList same
  simp only [String.toList_append, split, List.cons_append] at cut
  obtain ⟨ahead, behind⟩ := append_cons_inj_of_notMem outside outside' cut
  exact ⟨String.toList_inj.1 ahead, String.toList_inj.1 (List.append_cancel_left behind)⟩

/-- Two kinds of items, those of one kind first, can be told apart. -/
theorem append_inj_of_forall {p : α → Bool} {front front' back back' : List α}
    (kind : ∀ item ∈ front, p item = true) (kind' : ∀ item ∈ front', p item = true)
    (other : ∀ item ∈ back, p item = false) (other' : ∀ item ∈ back', p item = false)
    (same : front ++ back = front' ++ back') : front = front' ∧ back = back' := by
  have selected := congrArg (List.filter p) same
  have dropped : back.filter p = [] := by simpa [List.filter_eq_nil_iff] using other
  have dropped' : back'.filter p = [] := by simpa [List.filter_eq_nil_iff] using other'
  rw [List.filter_append, List.filter_append, dropped, dropped', List.append_nil, List.append_nil,
    List.filter_eq_self.2 kind, List.filter_eq_self.2 kind'] at selected
  obtain rfl := selected
  exact ⟨rfl, List.append_cancel_left same⟩

/-- Two lists are equal if they have equal images and equal images come from equal items. -/
theorem eq_of_map_eq_map {β : Type} {f g : α → β} {items items' : List α}
    (inj : ∀ item ∈ items, ∀ item' ∈ items', f item = g item' → item = item')
    (same : items.map f = items'.map g) : items = items' := by
  induction items generalizing items' with
  | nil =>
      cases items' with
      | nil => rfl
      | cons item' items' => cases same
  | cons item items ih =>
      cases items' with
      | nil => cases same
      | cons item' items' =>
          obtain ⟨here, later⟩ := List.cons.inj same
          obtain rfl := inj item List.mem_cons_self item' List.mem_cons_self here
          have rest : items = items' := ih (fun other member other' member' =>
            inj other (List.mem_cons_of_mem _ member) other' (List.mem_cons_of_mem _ member')) later
          rw [rest]

/-! ## A mark behind every piece -/

theorem flatMap_concat_inj {pieces pieces' : List (List α)}
    (outside : ∀ piece ∈ pieces, mark ∉ piece) (outside' : ∀ piece ∈ pieces', mark ∉ piece)
    (same : pieces.flatMap (· ++ [mark]) = pieces'.flatMap (· ++ [mark])) : pieces = pieces' := by
  induction pieces generalizing pieces' with
  | nil =>
      cases pieces' with
      | nil => rfl
      | cons piece' pieces' => simp at same
  | cons piece pieces ih =>
      cases pieces' with
      | nil => simp at same
      | cons piece' pieces' =>
          obtain ⟨here, later⟩ := List.forall_mem_cons.1 outside
          obtain ⟨here', later'⟩ := List.forall_mem_cons.1 outside'
          simp only [List.flatMap_cons, List.append_assoc, List.singleton_append] at same
          obtain ⟨rfl, rest⟩ := append_cons_inj_of_notMem here here' same
          rw [ih later later' rest]

/-- Puts lines below each other, each ended by a newline. -/
def Text.unlines (lines : List (List Char)) : List Char :=
  lines.flatMap (· ++ ['\n'])

namespace Text

@[simp]
theorem unlines_nil : unlines [] = [] :=
  rfl

@[simp]
theorem unlines_cons (line : List Char) (lines : List (List Char)) :
    unlines (line :: lines) = line ++ '\n' :: unlines lines := by
  simp [unlines]

@[simp]
theorem unlines_append (front back : List (List Char)) :
    unlines (front ++ back) = unlines front ++ unlines back := by
  simp [unlines]

end Text

/-! ## A mark between the pieces -/

/-- A separator behind the last piece, too, stands behind every piece. -/
theorem intercalate_append_separator {separator : List α} {pieces : List (List α)}
    (present : pieces ≠ []) :
    separator.intercalate pieces ++ separator = pieces.flatMap (· ++ separator) := by
  induction pieces with
  | nil => exact absurd rfl present
  | cons piece pieces ih =>
      by_cases single : pieces = []
      · simp [single]
      · rw [List.intercalate_cons_of_ne_nil single, List.append_assoc, ih single,
          List.flatMap_cons]

theorem intercalate_cons {separator piece : List α} {pieces : List (List α)} :
    separator.intercalate (piece :: pieces) = piece ++ pieces.flatMap (separator ++ ·) := by
  induction pieces generalizing piece with
  | nil => simp
  | cons next pieces ih =>
      rw [List.intercalate_cons_cons, ih, List.flatMap_cons, List.append_assoc, List.append_assoc]

theorem notMem_intercalate {separator : List α} {pieces : List (List α)}
    (outside : mark ∉ separator) (outside' : ∀ piece ∈ pieces, mark ∉ piece) :
    mark ∉ separator.intercalate pieces := by
  cases pieces with
  | nil => simp
  | cons piece pieces =>
      obtain ⟨here, later⟩ := List.forall_mem_cons.1 outside'
      rw [intercalate_cons]
      simp only [List.mem_append, List.mem_flatMap, not_or, not_exists, not_and]
      exact ⟨here, fun next member => ⟨outside, later next member⟩⟩

theorem notMem_toList_intercalate {mark : Char} {separator : String} {texts : List String}
    (outside : mark ∉ separator.toList) (outside' : ∀ text ∈ texts, mark ∉ text.toList) :
    mark ∉ (separator.intercalate texts).toList := by
  rw [String.toList_intercalate]
  refine notMem_intercalate outside fun piece listed => ?_
  obtain ⟨text, member, rfl⟩ := List.mem_map.1 listed
  exact outside' text member

/-- Pieces that are not empty are determined by what they make with a separator that starts with a
mark. -/
theorem intercalate_inj {gap : List α} {pieces pieces' : List (List α)}
    (outside : ∀ piece ∈ pieces, mark ∉ piece ∧ piece ≠ [])
    (outside' : ∀ piece ∈ pieces', mark ∉ piece ∧ piece ≠ [])
    (same : (mark :: gap).intercalate pieces = (mark :: gap).intercalate pieces') :
    pieces = pieces' := by
  induction pieces generalizing pieces' with
  | nil =>
      cases pieces' with
      | nil => rfl
      | cons piece' pieces' =>
          obtain ⟨⟨-, present⟩, -⟩ := List.forall_mem_cons.1 outside'
          simp [intercalate_cons, present] at same
  | cons piece pieces ih =>
      obtain ⟨⟨here, present⟩, later⟩ := List.forall_mem_cons.1 outside
      cases pieces' with
      | nil => simp [intercalate_cons, present] at same
      | cons piece' pieces' =>
          obtain ⟨⟨here', -⟩, later'⟩ := List.forall_mem_cons.1 outside'
          -- A further mark on one side only would lie inside the last piece of the other side.
          cases pieces with
          | nil =>
              cases pieces' with
              | nil => simpa using same
              | cons next' rest' =>
                  simp only [List.intercalate_singleton, List.intercalate_cons_cons] at same
                  simp [same] at here
          | cons next rest =>
              cases pieces' with
              | nil =>
                  simp only [List.intercalate_singleton, List.intercalate_cons_cons] at same
                  simp [← same] at here'
              | cons next' rest' =>
                  simp only [List.intercalate_cons_cons, List.append_assoc, List.cons_append]
                    at same
                  obtain ⟨rfl, behind⟩ := append_cons_inj_of_notMem here here' same
                  rw [ih later later' (List.append_cancel_left behind)]

/-! ## Newlines between the pieces -/

namespace Text

/-- Pieces separated by a newline and an indentation are lines, all but the first one indented. -/
theorem intercalate_newline (gap first : List Char) (later : List (List Char)) :
    ('\n' :: gap).intercalate (first :: later) ++ ['\n'] =
      unlines (first :: later.map (gap ++ ·)) := by
  induction later generalizing first with
  | nil => simp
  | cons next later ih =>
      have rest := ih next
      rw [List.intercalate_cons_cons, List.append_assoc, rest]
      simp

/-- Indented pieces separated by an ending, a newline and the indentation are lines with that
ending, up to the last one. -/
theorem append_intercalate_concat (indent ending last : List Char) (pieces : List (List Char)) :
    indent ++ (ending ++ '\n' :: indent).intercalate (pieces ++ [last]) =
      unlines (pieces.map fun piece => indent ++ piece ++ ending) ++ (indent ++ last) := by
  induction pieces with
  | nil => simp
  | cons piece pieces ih =>
      have present : pieces ++ [last] ≠ [] := by simp
      rw [List.cons_append, List.intercalate_cons_of_ne_nil present, List.map_cons, unlines_cons]
      simp only [List.append_assoc, List.cons_append] at ih ⊢
      rw [ih]

end Text

end PartDefs
