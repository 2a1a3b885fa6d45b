import Mathlib.Data.List.TakeWhile
import PartDefs.Path
import PartDefs.Proofs.Text.Lines

/-!
# The last name of a path

A path whose text ends in a name goes to that name in its last step, whatever is written in front
of it.  To join a name to a path adds such a step, and another extension changes the name in it.
-/

namespace PartDefs
namespace Path

variable {path : Path} {front name : List Char}

/-! ## Pieces -/

/-- A slash parts the pieces in front of it from those behind it. -/
theorem pieces_append_slash (front back : List Char) :
    pieces (front ++ '/' :: back) = pieces front ++ pieces back := by
  fun_induction pieces front with
  | case1 => simp [pieces]
  | case2 rest ih => simpa [pieces] using ih
  | case3 c rest other ih =>
      have first : (rest ++ '/' :: back).takeWhile (· ≠ '/') = rest.takeWhile (· ≠ '/') := by
        rw [List.takeWhile_append]
        split
        · next whole => simpa using ((List.takeWhile_prefix _).eq_of_length whole).symm
        · rfl
      have later : (rest ++ '/' :: back).dropWhile (· ≠ '/') =
          rest.dropWhile (· ≠ '/') ++ '/' :: back := by
        rw [List.dropWhile_append]
        split
        · next none =>
            rw [List.isEmpty_iff.1 none, List.dropWhile_cons_of_neg (by simp), List.nil_append]
        · rfl
      rw [List.cons_append, pieces, if_neg other, first, later, ih]
      rfl

/-- A text without slashes is one piece. -/
theorem pieces_of_notMem (named : name ≠ []) (plain : '/' ∉ name) : pieces name = [name] := by
  cases name with
  | nil => exact absurd rfl named
  | cons c rest =>
      have kept := forall_ne_of_notMem (List.not_mem_of_not_mem_cons plain)
      have nothing : rest.dropWhile (· ≠ '/') = [] := List.dropWhile_eq_nil_iff.2 kept
      rw [pieces, if_neg (List.ne_of_not_mem_cons plain).symm, List.takeWhile_eq_self_iff.2 kept,
        nothing, pieces]

/-- The text of a path ends in a name, with a slash in front of it unless it stands alone. -/
structure EndsIn (path : Path) (front name : List Char) : Prop where
  text : path.text.toList = front ++ name
  parted : front = [] ∨ ∃ outer, front = outer ++ ['/']
  named : name ≠ []
  plain : '/' ∉ name

/-- A text that does not end with a slash ends in a name. -/
theorem exists_endsIn (written : path.text ≠ "") (plain : path.asksForDirectory = false) :
    ∃ front name, path.EndsIn front name := by
  by_cases slash : '/' ∈ path.text.toList
  · -- The last slash is the first one from behind.
    obtain ⟨back, outer, split, outside⟩ := List.eq_append_cons_of_mem (List.mem_reverse.2 slash)
    have text : path.text.toList = outer.reverse ++ ['/'] ++ back.reverse := by
      simpa using congrArg List.reverse split
    refine ⟨outer.reverse ++ ['/'], back.reverse, text, .inr ⟨_, rfl⟩, ?_, by simpa using outside⟩
    intro none
    rw [asksForDirectory, text, none] at plain
    simp at plain
  · refine ⟨[], path.text.toList, rfl, .inl rfl, ?_, slash⟩
    intro none
    exact written (String.toList_inj.1 none)

theorem ofComponent_eq_down_iff {component name : String} :
    Step.ofComponent component = .down name ↔
      component = name ∧ component ≠ "." ∧ component ≠ ".." := by
  unfold Step.ofComponent
  split
  · next here => simp [here]
  · next other =>
      split
      · next up => simp [up]
      · next other' => simp [other, other']

/-- A path goes to its last name last. -/
theorem EndsIn.getLast?_steps (ends : path.EndsIn front name) :
    path.steps.getLast? = some (.ofComponent (String.ofList name)) := by
  have alone := pieces_of_notMem ends.named ends.plain
  rw [steps, ends.text]
  rcases ends.parted with rfl | ⟨outer, rfl⟩
  · rw [List.nil_append, alone]
    rfl
  · rw [List.append_assoc, List.singleton_append, pieces_append_slash, alone]
    simp

theorem endsIn_join (path : Path) {name : String} (named : name ≠ "") (plain : '/' ∉ name.toList) :
    ∃ front, (path.join name).EndsIn front name.toList := by
  have named' : name.toList ≠ [] := fun none => named (String.toList_inj.1 none)
  rw [join]
  split
  · next open_ =>
      refine ⟨path.text.toList, by simp, ?_, named', plain⟩
      rcases Bool.or_eq_true_iff.1 open_ with empty | slash
      · left
        simpa using empty
      · right
        obtain ⟨outer, text⟩ := List.getLast?_eq_some_iff.1 (of_decide_eq_true slash)
        exact ⟨outer, text⟩
  · exact ⟨path.text.toList ++ ['/'], by simp, .inr ⟨_, rfl⟩, named', plain⟩

/-! ## Extensions -/

/-- A name without a point, but for one at its start, is its own stem; any other name is cut at its
last point. -/
theorem splitExtension_cases (name : String) :
    (splitExtension name = (name, none) ∧ '.' ∉ name.toList.tail) ∨ ∃ stem extension,
      splitExtension name = (stem, some extension) ∧ name = stem ++ "." ++ extension ∧
        stem ≠ "" ∧ '.' ∉ extension.toList := by
  have plain : '.' ∉ (name.toList.reverse.takeWhile (· ≠ '.')).reverse := by
    intro member
    simpa using List.mem_takeWhile_imp (List.mem_reverse.1 member)
  have whole := congrArg List.reverse
    (List.takeWhile_append_dropWhile (p := (· ≠ '.')) (l := name.toList.reverse))
  rw [List.reverse_append, List.reverse_reverse] at whole
  unfold splitExtension
  split
  · next none =>
      rw [none, List.reverse_nil, List.nil_append] at whole
      refine .inl ⟨rfl, fun point => plain ?_⟩
      rw [whole]
      exact List.mem_of_mem_tail point
  · next first =>
      rw [first] at whole
      exact .inl ⟨rfl, by rwa [← whole]⟩
  · next c stem other rest =>
      have point : c = '.' := by
        have head := List.head?_dropWhile_not (· ≠ '.') name.toList.reverse
        rw [rest] at head
        simpa using head
      subst point
      refine .inr ⟨_, _, rfl, String.toList_inj.1 ?_, ?_, by rwa [String.toList_ofList]⟩
      · rw [rest] at whole
        simpa using whole.symm
      · intro empty
        exact other rfl (by simpa [← String.toList_inj] using empty)

/-- An extension with a point in it is not the one that a name has. -/
theorem stem_append_ne {name extension : String} (pointed : '.' ∈ extension.toList) :
    (splitExtension name).1 ++ "." ++ extension ≠ name := by
  intro same
  rcases splitExtension_cases name with ⟨whole, -⟩ | ⟨stem, former, split, text, -, plain⟩
  · rw [whole] at same
    have lengths := congrArg (fun text => text.toList.length) same
    simp at lengths
  · rw [split] at same
    have equal := String.append_right_inj (stem ++ ".") |>.1 (same.trans text)
    exact plain (equal ▸ pointed)

theorem notMem_stem {name : String} {c : Char} (outside : c ∉ name.toList) :
    c ∉ (splitExtension name).1.toList := by
  rcases splitExtension_cases name with ⟨whole, -⟩ | ⟨stem, former, split, text, -, -⟩
  · rwa [whole]
  · rw [split]
    rw [text] at outside
    intro member
    exact outside (by simp [member])

/-- Only slashes, and single points behind slashes, are cut off. -/
theorem trimBack_cons_eq_self {c : Char} {rest : List Char} (first : c ≠ '/')
    (next : c = '.' → rest.head? ≠ some '/') : trimBack (c :: rest) = c :: rest := by
  unfold trimBack
  split
  · next same => exact absurd (List.cons.inj same).1 first
  · next same => exact absurd (List.cons.inj same).1 first
  · next same =>
      obtain ⟨rfl, rfl⟩ := List.cons.inj same
      exact absurd rfl (next rfl)
  · rfl

namespace EndsIn

/-- Nothing is cut off behind a last name other than a single point. -/
theorem back_eq (ends : path.EndsIn front name) (other : name ≠ ['.']) :
    path.back = name.reverse ++ front.reverse := by
  have plain : '/' ∉ name.reverse := fun member => ends.plain (List.mem_reverse.1 member)
  rw [back, ends.text, List.reverse_append]
  cases letters : name.reverse with
  | nil => exact absurd (List.reverse_eq_nil_iff.1 letters) ends.named
  | cons c before =>
      rw [letters] at plain
      refine trimBack_cons_eq_self (List.ne_of_not_mem_cons plain).symm ?_
      rintro rfl
      cases before with
      | nil => exact absurd (List.reverse_eq_iff.1 letters) other
      | cons d before =>
          intro slash
          obtain rfl : d = '/' := Option.some.inj slash
          exact plain (by simp)

theorem lastComponent_eq (ends : path.EndsIn front name) (other : name ≠ ['.']) :
    path.lastComponent = String.ofList name := by
  have kept := forall_ne_of_notMem (mt List.mem_reverse.1 ends.plain)
  have stops : front.reverse.takeWhile (· ≠ '/') = [] := by
    rcases ends.parted with rfl | ⟨outer, rfl⟩ <;> simp
  rw [lastComponent, ends.back_eq other, List.takeWhile_append_of_pos kept, stops,
    List.append_nil, List.reverse_reverse]

theorem beforeLast_eq (ends : path.EndsIn front name) (other : name ≠ ['.']) :
    path.beforeLast = String.ofList front := by
  have passed := forall_ne_of_notMem (mt List.mem_reverse.1 ends.plain)
  have stops : front.reverse.dropWhile (· ≠ '/') = front.reverse := by
    rcases ends.parted with rfl | ⟨outer, rfl⟩ <;> simp
  rw [beforeLast, ends.back_eq other, List.dropWhile_append_of_pos passed, stops,
    List.reverse_reverse]

/-- With another extension the path ends in the stem with that extension, in the same front, unless
it turns into the parent directory. -/
theorem withExtension {extension : String} (ends : path.EndsIn front name) (other : name ≠ ['.'])
    (other' : name ≠ ['.', '.']) (plain : '/' ∉ extension.toList) :
    (path.withExtension extension).EndsIn front ['.', '.'] ∨
      (path.withExtension extension).EndsIn front
        ((splitExtension (String.ofList name)).1 ++ "." ++ extension).toList := by
  have named : path.fileName? = some (String.ofList name) := by
    have real : ¬(String.ofList name = "" ∨ String.ofList name = "." ∨
        String.ofList name = "..") := by
      simpa [← String.toList_inj] using ⟨ends.named, other, other'⟩
    rw [fileName?, ends.lastComponent_eq other]
    exact if_neg real
  rw [Path.withExtension, named, ends.beforeLast_eq other]
  dsimp only
  split
  · exact .inl ⟨by simp, ends.parted, by simp, by decide⟩
  · refine .inr ⟨by simp, ends.parted, by simp, ?_⟩
    intro slash
    rw [String.toList_append, String.toList_append, List.mem_append, List.mem_append] at slash
    rcases slash with (slash | slash) | slash
    · exact notMem_stem (by simpa using ends.plain) slash
    · simp at slash
    · exact plain slash

end EndsIn

/-- A file with another extension has another name if the extension has a point in it. -/
theorem ne_of_getLast?_steps_withExtension {name other extension : String}
    (last : path.steps.getLast? = some (.down name)) (plain : path.asksForDirectory = false)
    (pointed : '.' ∈ extension.toList) (plain' : '/' ∉ extension.toList)
    (last' : (path.withExtension extension).steps.getLast? = some (.down other)) :
    other ≠ name := by
  have written : path.text ≠ "" := by
    intro empty
    rw [steps, empty, String.toList_empty, pieces] at last
    cases last
  obtain ⟨front, letters, ends⟩ := exists_endsIn written plain
  obtain ⟨rfl, single, double⟩ := ofComponent_eq_down_iff.1
    (Option.some.inj (ends.getLast?_steps.symm.trans last))
  have single' : letters ≠ ['.'] := fun same => single (same ▸ rfl)
  have double' : letters ≠ ['.', '.'] := fun same => double (same ▸ rfl)
  rcases ends.withExtension single' double' plain' with up | down
  · rw [up.getLast?_steps] at last'
    cases last'
  · obtain ⟨rfl, -⟩ := ofComponent_eq_down_iff.1
      (Option.some.inj (down.getLast?_steps.symm.trans last'))
    rw [String.ofList_toList]
    exact stem_append_ne pointed

end Path
end PartDefs
