import PartDefs.Text.Blank

/-!
# Collapsing newlines

One pass from left to right puts a single newline for every pair of adjacent newlines, so that a
run of newlines is halved.  A text in normal layout is trimmed, collapsed once and ended by one
newline.
-/

namespace PartDefs.Text

/-- Puts one newline for each pair of adjacent newlines, in one pass from left to right. -/
def collapse : List Char → List Char
  | [] => []
  | '\n' :: '\n' :: rest => '\n' :: collapse rest
  | c :: rest => c :: collapse rest

@[simp]
theorem collapse_nil : collapse [] = [] :=
  rfl

@[simp]
theorem collapse_pair (rest : List Char) :
    collapse ('\n' :: '\n' :: rest) = '\n' :: collapse rest :=
  rfl

theorem collapse_cons_of_ne {c : Char} (other : c ≠ '\n') (rest : List Char) :
    collapse (c :: rest) = c :: collapse rest := by
  rw [collapse]
  intro tail same
  exact absurd same other

theorem collapse_cons_newline {text : List Char} (fresh : text.head? ≠ some '\n') :
    collapse ('\n' :: text) = '\n' :: collapse text := by
  rw [collapse]
  rintro rest - rfl
  exact fresh rfl

theorem collapse_eq_nil_iff {text : List Char} : collapse text = [] ↔ text = [] := by
  fun_cases collapse text <;> simp

/-- The pass over a text that does not end in a newline leaves nothing over for what follows. -/
theorem collapse_append {front : List Char} (solid : front.getLast? ≠ some '\n')
    (back : List Char) : collapse (front ++ back) = collapse front ++ collapse back := by
  fun_induction collapse front with
  | case1 => rfl
  | case2 rest ih =>
      have later : rest.getLast? ≠ some '\n' := by
        intro ends
        simp [List.getLast?_cons, ends] at solid
      simp [ih later]
  | case3 c rest other ih =>
      have later : rest.getLast? ≠ some '\n' := by
        intro ends
        simp [List.getLast?_cons, ends] at solid
      by_cases newline : c = '\n'
      · subst newline
        -- The newline does not end the text, so it is followed by something else.
        have fresh : (rest ++ back).head? ≠ some '\n' := by
          cases rest with
          | nil => exact absurd rfl solid
          | cons next rest =>
              intro first
              obtain rfl := Option.some.inj first
              exact other rest rfl rfl
        rw [List.cons_append, collapse_cons_newline fresh, ih later, List.cons_append]
      · rw [List.cons_append, collapse_cons_of_ne newline, ih later, List.cons_append]

/-- Trims a text, collapses its newlines once and ends it with a newline. -/
def normalize (text : List Char) : List Char :=
  collapse (trim text) ++ ['\n']

end PartDefs.Text
