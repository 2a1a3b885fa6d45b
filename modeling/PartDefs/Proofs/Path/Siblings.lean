import PartDefs.Project
import PartDefs.Proofs.Path.Names

/-!
# Siblings of a file

A path names a file if its last component is a name, behind which there may be slashes and
components `.` that do not count.  The declarations of such a file go beside it: everything in front
of the name is kept as it is written, and the name keeps its stem.  So the declarations never take
the name of the file, and two files of a directory share them just if they share their stems.
-/

namespace PartDefs
namespace Path

/-- Slashes and components `.` behind a name. -/
inductive Idle : String → Prop where
  | none : Idle ""
  | slash {text : String} : Idle text → Idle (text ++ "/")
  | point {text : String} : Idle text → Idle (text ++ "/.")

/-- A path that names a file: what is written in front of the name, the name, and nothing that
counts behind it. -/
structure NamesFile (path : Path) (front name : String) : Prop where
  text : ∃ behind, Idle behind ∧ path.text = front ++ name ++ behind
  parted : front = "" ∨ ∃ outer, front = outer ++ "/"
  plain : '/' ∉ name.toList
  named : name ≠ "" ∧ name ≠ "." ∧ name ≠ ".."

/-! ## What a path names -/

theorem trimBack_slash_cons {back : List Char} (more : back ≠ []) :
    trimBack ('/' :: back) = trimBack back := by
  cases back with
  | nil => exact absurd rfl more
  | cons c back => rfl

theorem Idle.trimBack_append {behind : String} (idle : Idle behind) {back : List Char}
    (more : back ≠ []) : trimBack (behind.toList.reverse ++ back) = trimBack back := by
  induction idle with
  | none => rfl
  | @slash text _ ih =>
      have more' : text.toList.reverse ++ back ≠ [] := List.append_ne_nil_of_right_ne_nil _ more
      simp only [String.toList_append, List.reverse_append]
      exact (trimBack_slash_cons more').trans ih
  | @point text _ ih =>
      have more' : text.toList.reverse ++ back ≠ [] := List.append_ne_nil_of_right_ne_nil _ more
      simp only [String.toList_append, List.reverse_append]
      exact (trimBack_slash_cons more').trans ih

/-- What is cut off at the end of a path does not count, unless nothing but a slash is left. -/
theorem exists_idle (back : List Char) :
    trimBack back = ['/'] ∨
      ∃ behind, Idle behind ∧ back = behind.toList.reverse ++ trimBack back := by
  fun_induction trimBack back with
  | case1 => exact .inl rfl
  | case2 rest _ ih =>
      refine ih.imp_right ?_
      rintro ⟨behind, idle, split⟩
      exact ⟨_, idle.slash, by simpa using split⟩
  | case3 rest ih =>
      cases rest with
      | nil => exact .inl rfl
      | cons c rest =>
          refine ih.imp_right ?_
          rintro ⟨behind, idle, split⟩
          cases idle with
          | none =>
              -- Here nothing would be cut off although a slash is.
              rw [trimBack_slash_cons (List.cons_ne_nil c rest)] at split
              have shorter := length_trimBack_le (c :: rest)
              have lengths := congrArg List.length split
              simp at shorter lengths
              omega
          | slash idle => exact ⟨_, idle.point, by simpa using split⟩
          | point idle => simp at split
  | case4 back => exact .inr ⟨"", .none, rfl⟩

namespace NamesFile

variable {path : Path} {front name : String}

theorem endsIn (written : path.NamesFile front name) :
    (Path.mk (front ++ name)).EndsIn front.toList name.toList where
  text := String.toList_append
  parted := by
    rcases written.parted with rfl | ⟨outer, rfl⟩
    · exact .inl rfl
    · exact .inr ⟨outer.toList, String.toList_append⟩
  named := fun none => written.named.1 (String.toList_inj.1 none)
  plain := written.plain

theorem back_eq (written : path.NamesFile front name) :
    path.back = (Path.mk (front ++ name)).back := by
  obtain ⟨behind, idle, text⟩ := written.text
  have more : (front ++ name).toList.reverse ≠ [] := by
    simp [written.named.1]
  rw [back, back, text, String.toList_append, List.reverse_append, idle.trimBack_append more]

theorem lastComponent_eq (written : path.NamesFile front name) : path.lastComponent = name := by
  have other : name.toList ≠ ['.'] := fun point => written.named.2.1 (String.toList_inj.1 point)
  rw [lastComponent, written.back_eq, ← lastComponent, written.endsIn.lastComponent_eq other,
    String.ofList_toList]

theorem beforeLast_eq (written : path.NamesFile front name) : path.beforeLast = front := by
  have other : name.toList ≠ ['.'] := fun point => written.named.2.1 (String.toList_inj.1 point)
  rw [beforeLast, written.back_eq, ← beforeLast, written.endsIn.beforeLast_eq other,
    String.ofList_toList]

theorem fileName?_eq (written : path.NamesFile front name) : path.fileName? = some name := by
  rw [fileName?, written.lastComponent_eq]
  exact if_neg (by simpa using written.named)

end NamesFile

theorem text_eq_of_idle {path : Path} {behind : String}
    (split : path.text.toList.reverse = behind.toList.reverse ++ path.back) :
    path.text = path.beforeLast ++ path.lastComponent ++ behind := by
  have parts := List.takeWhile_append_dropWhile (p := (· ≠ '/')) (l := path.back)
  have whole := congrArg List.reverse split
  rw [← parts, List.reverse_append, List.reverse_append, List.reverse_reverse,
    List.reverse_reverse] at whole
  apply String.toList_inj.1
  simpa [beforeLast, lastComponent] using whole

theorem beforeLast_parted (path : Path) :
    path.beforeLast = "" ∨ ∃ outer, path.beforeLast = outer ++ "/" := by
  have head := List.head?_dropWhile_not (· ≠ '/') path.back
  cases rest : path.back.dropWhile (· ≠ '/') with
  | nil => exact .inl (by rw [beforeLast, rest]; rfl)
  | cons c outer =>
      rw [rest] at head
      obtain rfl : c = '/' := by simpa using head
      refine .inr ⟨String.ofList outer.reverse, String.toList_inj.1 ?_⟩
      rw [beforeLast, rest]
      simp

theorem notMem_lastComponent (path : Path) : '/' ∉ path.lastComponent.toList := by
  intro slash
  rw [lastComponent, String.toList_ofList, List.mem_reverse] at slash
  simpa using List.mem_takeWhile_imp slash

/-- A path has a file name just if it is written as one that names a file. -/
theorem fileName?_eq_some_iff {path : Path} {name : String} :
    path.fileName? = some name ↔ ∃ front, path.NamesFile front name := by
  constructor
  · intro found
    rw [fileName?] at found
    split at found
    · cases found
    · next real =>
        obtain rfl := Option.some.inj found
        obtain ⟨named, single, double⟩ := not_or.1 real |>.imp_right not_or.1
        rcases exists_idle path.text.toList.reverse with slash | ⟨behind, idle, split⟩
        · refine absurd ?_ named
          rw [lastComponent, back, slash]
          rfl
        · exact ⟨path.beforeLast, ⟨behind, idle, text_eq_of_idle split⟩, path.beforeLast_parted,
            path.notMem_lastComponent, named, single, double⟩
  · rintro ⟨front, written⟩
    exact written.fileName?_eq

/-! ## Stems -/

/-- The stem of a name is what stands in front of its last point, a point at the start of the name
not counted. -/
def IsStem (name stem : String) : Prop :=
  (stem = name ∧ '.' ∉ name.toList.tail) ∨
    ∃ extension, name = stem ++ "." ++ extension ∧ stem ≠ "" ∧ '.' ∉ extension.toList

theorem point_mem_tail_append {stem extension : String} (present : stem ≠ "") :
    '.' ∈ (stem ++ "." ++ extension).toList.tail := by
  obtain ⟨c, rest, letters⟩ := List.exists_cons_of_ne_nil (mt String.toList_eq_nil_iff.1 present)
  simp [letters]

/-- A name has one stem. -/
theorem IsStem.unique {name stem stem' : String} (stemmed : IsStem name stem)
    (stemmed' : IsStem name stem') : stem = stem' := by
  rcases stemmed with ⟨rfl, plain⟩ | ⟨extension, rfl, present, plain⟩
  · rcases stemmed' with ⟨rfl, -⟩ | ⟨extension', same, present', -⟩
    · rfl
    · exact absurd (point_mem_tail_append present') (same ▸ plain)
  · rcases stemmed' with ⟨rfl, plain'⟩ | ⟨extension', same, present', plain'⟩
    · exact absurd (point_mem_tail_append present) plain'
    · -- Read backwards, the last point is the first one.
      have back := congrArg (fun text => text.toList.reverse) same
      simp only [String.toList_append, List.reverse_append] at back
      obtain ⟨-, stems⟩ := append_cons_inj_of_notMem (mt List.mem_reverse.1 plain)
        (mt List.mem_reverse.1 plain') back
      exact String.toList_inj.1 (List.reverse_inj.1 stems)

theorem isStem_splitExtension (name : String) : IsStem name (splitExtension name).1 := by
  rcases splitExtension_cases name with ⟨whole, plain⟩ | ⟨stem, extension, split, cut⟩
  · rw [whole]
    exact .inl ⟨rfl, plain⟩
  · rw [split]
    exact .inr ⟨extension, cut⟩

theorem isStem_iff {name stem : String} : IsStem name stem ↔ stem = (splitExtension name).1 := by
  constructor
  · intro stemmed
    exact stemmed.unique (isStem_splitExtension name)
  · rintro rfl
    exact isStem_splitExtension name

/-- A name of two points and an extension, so that `..` would be left without the extension. -/
def ExtendsParent (name : String) : Prop :=
  ∃ extension, name = ".." ++ extension ∧ extension ≠ "" ∧ '.' ∉ extension.toList

theorem isParentWithExtension_eq_false {path : Path} {name : String}
    (ordinary : ¬ExtendsParent name) : path.isParentWithExtension name = false := by
  rcases splitExtension_cases name with ⟨whole, -⟩ | ⟨stem, extension, split, text, -, plain⟩
  · rw [isParentWithExtension, whole]
  · rw [isParentWithExtension, split, Bool.eq_false_iff]
    intro parent
    obtain ⟨⟨rfl, present⟩, -⟩ : (stem = "." ∧ extension ≠ "") ∧ path.endsInComponent = true := by
      simpa using parent
    exact ordinary ⟨extension, text, present, plain⟩

namespace NamesFile

variable {path : Path} {front name : String}

theorem withExtension_eq (written : path.NamesFile front name) (ordinary : ¬ExtendsParent name)
    (extension : String) :
    path.withExtension extension = ⟨front ++ (splitExtension name).1 ++ "." ++ extension⟩ := by
  rw [withExtension, written.fileName?_eq]
  simp only [isParentWithExtension_eq_false ordinary, written.beforeLast_eq]
  rfl

end NamesFile

/-! ## The declarations -/

theorem declarationsPath_eq {input : Path} {front name : String}
    (written : input.NamesFile front name) (ordinary : ¬ExtendsParent name) :
    declarationsPath input = ⟨front ++ (splitExtension name).1 ++ ".d.lua"⟩ := by
  rw [declarationsPath, written.withExtension_eq ordinary, String.append_assoc]
  rfl

theorem namesFile_declarationsPath {input : Path} {front name : String}
    (written : input.NamesFile front name) (ordinary : ¬ExtendsParent name) :
    (declarationsPath input).NamesFile front ((splitExtension name).1 ++ ".d.lua") where
  text := by
    refine ⟨"", .none, ?_⟩
    rw [declarationsPath_eq written ordinary, String.append_empty, String.append_assoc]
  parted := written.parted
  plain := by
    rw [String.toList_append, List.mem_append, not_or]
    exact ⟨notMem_stem written.plain, by decide⟩
  named := by
    -- The ending alone is longer than `..`.
    have long : 2 < ((splitExtension name).1 ++ ".d.lua").toList.length := by simp
    refine ⟨?_, ?_, ?_⟩ <;> intro same <;> simp [same] at long

/-- The declarations of a file are written beside it under its stem, never under its own name, and
two files of a directory share them just if they share their stems.  The paths that name files are
those that have a file name. -/
theorem declarationsPath_sibling {input : Path} {front name : String}
    (written : input.NamesFile front name) (ordinary : ¬ExtendsParent name) :
    (∀ (path : Path) (last : String),
        path.fileName? = some last ↔ ∃ before, path.NamesFile before last) ∧
      (∀ stem, IsStem name stem ↔ stem = (splitExtension name).1) ∧
      declarationsPath input = ⟨front ++ (splitExtension name).1 ++ ".d.lua"⟩ ∧
      (declarationsPath input).NamesFile front ((splitExtension name).1 ++ ".d.lua") ∧
      (splitExtension name).1 ++ ".d.lua" ≠ name ∧
      ∀ {other : Path} {name' : String}, other.NamesFile front name' → ¬ExtendsParent name' →
        (declarationsPath other = declarationsPath input ↔
          (splitExtension name').1 = (splitExtension name).1) := by
  refine ⟨fun _ _ => fileName?_eq_some_iff, fun _ => isStem_iff,
    declarationsPath_eq written ordinary, namesFile_declarationsPath written ordinary, ?_, ?_⟩
  · have apart : (splitExtension name).1 ++ "." ++ "d.lua" ≠ name := stem_append_ne (by decide)
    rwa [String.append_assoc] at apart
  · intro other name' written' ordinary'
    rw [declarationsPath_eq written ordinary, declarationsPath_eq written' ordinary', Path.mk.injEq,
      String.append_left_inj, String.append_right_inj]

theorem lampsFile_sibling :
    (Path.mk "game//.lamps.v2.json/.//").NamesFile "game//" ".lamps.v2.json" ∧
      (Path.mk "game//.lamps.v2.txt").NamesFile "game//" ".lamps.v2.txt" ∧
      ¬ExtendsParent ".lamps.v2.json" ∧ ¬ExtendsParent ".lamps.v2.txt" ∧
      declarationsPath ⟨"game//.lamps.v2.json/.//"⟩ = ⟨"game//.lamps.v2.d.lua"⟩ ∧
      declarationsPath ⟨"game//.lamps.v2.txt"⟩ = declarationsPath ⟨"game//.lamps.v2.json/.//"⟩ := by
  have written : (Path.mk "game//.lamps.v2.json/.//").NamesFile "game//" ".lamps.v2.json" :=
    ⟨⟨"/.//", Idle.none.point.slash.slash, by decide⟩, .inr ⟨"game/", by decide⟩, by decide,
      by decide⟩
  have written' : (Path.mk "game//.lamps.v2.txt").NamesFile "game//" ".lamps.v2.txt" :=
    ⟨⟨"", .none, by decide⟩, .inr ⟨"game/", by decide⟩, by decide, by decide⟩
  have ordinary : ¬ExtendsParent ".lamps.v2.json" := by
    rintro ⟨extension, same, -⟩
    simp [← String.toList_inj] at same
  have ordinary' : ¬ExtendsParent ".lamps.v2.txt" := by
    rintro ⟨extension, same, -⟩
    simp [← String.toList_inj] at same
  obtain ⟨-, -, beside, -, -, shared⟩ := declarationsPath_sibling written ordinary
  refine ⟨written, written', ordinary, ordinary', beside.trans (by decide), ?_⟩
  exact (shared written' ordinary').2 (by decide)

end Path
end PartDefs
