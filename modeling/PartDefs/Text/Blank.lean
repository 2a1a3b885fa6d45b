/-!
# Blank characters and trimming

Blank characters are those of the Unicode property `White_Space`.  Trimming removes them from both
ends of a text.
-/

namespace PartDefs.Text

/-- The characters with the property `White_Space`. -/
def isBlank (c : Char) : Bool :=
  let n := c.toNat
  (0x09 ≤ n && n ≤ 0x0d) || n == 0x20 || n == 0x85 || n == 0xa0 || n == 0x1680 ||
    (0x2000 ≤ n && n ≤ 0x200a) || n == 0x2028 || n == 0x2029 || n == 0x202f || n == 0x205f ||
    n == 0x3000

@[simp]
theorem isBlank_newline : isBlank '\n' = true := by
  decide

/-- Removes blank characters from the end. -/
def trimEnd (text : List Char) : List Char :=
  (text.reverse.dropWhile isBlank).reverse

/-- Removes blank characters from both ends. -/
def trim (text : List Char) : List Char :=
  trimEnd (text.dropWhile isBlank)

theorem dropWhile_isBlank_eq_self {text : List Char}
    (first : ∀ c ∈ text.head?, isBlank c = false) : text.dropWhile isBlank = text := by
  cases text with
  | nil => rfl
  | cons c rest => simp [first c rfl]

theorem isBlank_head?_dropWhile (text : List Char) :
    ∀ c ∈ (text.dropWhile isBlank).head?, isBlank c = false := by
  have kept := List.head?_dropWhile_not isBlank text
  intro c first
  rw [Option.mem_def.1 first] at kept
  exact kept

/-- Neither the first nor the last character is blank. -/
structure IsTrimmed (text : List Char) : Prop where
  first : ∀ c ∈ text.head?, isBlank c = false
  last : ∀ c ∈ text.getLast?, isBlank c = false

/-- What stands between two trimmed texts does not matter. -/
theorem IsTrimmed.append {front back : List Char} (trimmed : IsTrimmed front)
    (trimmed' : IsTrimmed back) (middle : List Char) (nonempty : front ≠ [])
    (nonempty' : back ≠ []) : IsTrimmed (front ++ middle ++ back) where
  first := by
    obtain ⟨c, rest, rfl⟩ := List.exists_cons_of_ne_nil nonempty
    simpa using trimmed.first
  last := by
    intro c final
    rw [List.getLast?_append, List.getLast?_eq_some_getLast nonempty', Option.some_or] at final
    exact trimmed'.last c (List.getLast?_eq_some_getLast nonempty' ▸ final)

theorem trim_eq_self {text : List Char} (trimmed : IsTrimmed text) : trim text = text := by
  have last : ∀ c ∈ text.reverse.head?, isBlank c = false := by
    rw [List.head?_reverse]
    exact trimmed.last
  rw [trim, dropWhile_isBlank_eq_self trimmed.first, trimEnd, dropWhile_isBlank_eq_self last,
    List.reverse_reverse]

theorem isTrimmed_trim (text : List Char) : IsTrimmed (trim text) where
  first := by
    intro c first
    have front : trim text <+: text.dropWhile isBlank := by
      rw [trim, trimEnd, ← List.reverse_suffix, List.reverse_reverse]
      exact List.dropWhile_suffix isBlank
    obtain ⟨rest, split⟩ := front
    refine isBlank_head?_dropWhile text c ?_
    rw [← split, List.head?_append, Option.mem_def.1 first]
    rfl
  last := by
    rw [trim, trimEnd, List.getLast?_reverse]
    exact isBlank_head?_dropWhile _

theorem trimEnd_append_takeWhile (text : List Char) :
    trimEnd text ++ (text.reverse.takeWhile isBlank).reverse = text := by
  rw [trimEnd, ← List.reverse_append, List.takeWhile_append_dropWhile, List.reverse_reverse]

/-- Trimming takes off blank characters at both ends, and nothing else. -/
theorem exists_eq_append_trim (text : List Char) :
    ∃ front back, text = front ++ trim text ++ back ∧ ∀ c ∈ front ++ back, isBlank c = true := by
  refine ⟨text.takeWhile isBlank,
    ((text.dropWhile isBlank).reverse.takeWhile isBlank).reverse, ?_, ?_⟩
  · rw [List.append_assoc, trim, trimEnd_append_takeWhile, List.takeWhile_append_dropWhile]
  · intro c member
    rcases List.mem_append.1 member with member | member
    · exact List.all_eq_true.1 List.all_takeWhile c member
    · exact List.all_eq_true.1 List.all_takeWhile c (List.mem_reverse.1 member)

theorem trim_cons_of_isBlank {c : Char} (blank : isBlank c = true) (text : List Char) :
    trim (c :: text) = trim text := by
  rw [trim, List.dropWhile_cons_of_pos blank, trim]

theorem trim_concat_of_isBlank {c : Char} (blank : isBlank c = true) (text : List Char) :
    trim (text ++ [c]) = trim text := by
  rw [trim, List.dropWhile_append, trim]
  split
  · next all =>
      rw [List.dropWhile_cons_of_pos blank, List.isEmpty_iff.1 all, List.dropWhile_nil]
  · rw [trimEnd, List.reverse_concat, List.dropWhile_cons_of_pos blank, trimEnd]

end PartDefs.Text
