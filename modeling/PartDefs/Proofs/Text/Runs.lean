import Mathlib.Data.List.SplitBy
import PartDefs.Text.Newlines

/-!
# Runs of newlines

A text is made of runs of equal characters, each followed by a run of another character.  The pass
that collapses newlines halves every run of newlines, rounding up, and keeps all other runs.  So a
text in normal layout still has two newlines in a row where three or more were met, and just then
it changes when it is brought into normal layout again.
-/

namespace PartDefs.Text

/-- The maximal runs of equal characters. -/
def runs (text : List Char) : List (List Char) :=
  text.splitBy (· == ·)

/-- Half of a run of newlines, rounded up; any other run as it is. -/
def halve (run : List Char) : List Char :=
  if '\n' ∈ run then List.replicate ((run.length + 1) / 2) '\n' else run

/-- Somewhere there are at least so many newlines in a row. -/
def HasRun (length : Nat) (text : List Char) : Prop :=
  ∃ run ∈ runs text, '\n' ∈ run ∧ length ≤ run.length

/-! ## Texts as lists of runs -/

/-- Each run is followed by one of another character. -/
inductive Alternating : List (List Char) → Prop where
  | nil : Alternating []
  | cons {c : Char} (more : Nat) {later : List (List Char)} :
      later.flatten.head? ≠ some c → Alternating later →
        Alternating (List.replicate (more + 1) c :: later)

namespace Alternating

variable {pieces : List (List Char)}

theorem runs_flatten (alternating : Alternating pieces) : runs pieces.flatten = pieces := by
  induction alternating with
  | nil => rfl
  | @cons c more later fresh _ ih =>
      have apart : ∀ x ∈ (List.replicate (more + 1) c).getLast?, ∀ y ∈ later.flatten.head?,
          (x == y) = false := by
        intro x last y first
        obtain rfl := List.eq_of_mem_replicate (List.mem_of_getLast? last)
        exact beq_false_of_ne fun same => fresh (same ▸ first)
      have single : (List.replicate (more + 1) c).splitBy (· == ·) =
          [List.replicate (more + 1) c] := by
        refine List.splitBy_of_isChain (by simp) ?_
        exact List.isChain_replicate_of_rel _ (beq_self_eq_true c)
      rw [runs] at ih ⊢
      rw [List.flatten_cons, List.splitBy_append apart, single, ih, List.singleton_append]

end Alternating

theorem exists_alternating (text : List Char) :
    ∃ pieces, Alternating pieces ∧ pieces.flatten = text := by
  induction text with
  | nil => exact ⟨[], .nil, rfl⟩
  | cons c text ih =>
      obtain ⟨pieces, alternating, rfl⟩ := ih
      by_cases fresh : pieces.flatten.head? = some c
      · -- The character lengthens the first run.
        cases alternating with
        | nil => cases fresh
        | @cons d more later fresh' alternating =>
            obtain rfl : d = c := Option.some.inj fresh
            exact ⟨_, .cons (more + 1) fresh' alternating, rfl⟩
      · exact ⟨_, .cons 0 fresh alternating, rfl⟩

theorem alternating_runs (text : List Char) : Alternating (runs text) := by
  obtain ⟨pieces, alternating, rfl⟩ := exists_alternating text
  rwa [alternating.runs_flatten]

theorem flatten_runs (text : List Char) : (runs text).flatten = text :=
  List.flatten_splitBy _ text

/-! ## Halving -/

theorem mem_halve {run : List Char} : '\n' ∈ halve run ↔ '\n' ∈ run := by
  unfold halve
  split
  · next newline =>
      have present := List.length_pos_of_mem newline
      simp only [List.mem_replicate, newline, and_true, iff_true]
      omega
  · rfl

theorem length_halve {run : List Char} (newline : '\n' ∈ run) :
    (halve run).length = (run.length + 1) / 2 := by
  rw [halve, if_pos newline, List.length_replicate]

theorem halve_replicate_newline (more : Nat) :
    halve (List.replicate (more + 1) '\n') = List.replicate (more / 2 + 1) '\n' := by
  have half : (more + 1 + 1) / 2 = more / 2 + 1 := by omega
  rw [halve, if_pos (by simp), List.length_replicate, half]

theorem halve_replicate_of_ne {c : Char} (other : c ≠ '\n') (length : Nat) :
    halve (List.replicate length c) = List.replicate length c := by
  refine if_neg fun newline => ?_
  exact other (List.eq_of_mem_replicate newline).symm

theorem halve_eq_self_iff (run : List Char) :
    halve run = run ↔ ¬('\n' ∈ run ∧ 2 ≤ run.length) := by
  constructor
  · rintro same ⟨newline, long⟩
    have lengths := length_halve newline
    rw [same] at lengths
    omega
  · intro short
    by_cases newline : '\n' ∈ run
    · have present := List.length_pos_of_mem newline
      have bound := not_and.1 short newline
      have single : run.length = 1 := by omega
      obtain ⟨c, rfl⟩ := List.length_eq_one_iff.1 single
      obtain rfl := List.mem_singleton.1 newline
      rfl
    · exact if_neg newline

/-! ## The pass, run by run -/

theorem collapse_replicate_append (more : Nat) {later : List Char}
    (fresh : later.head? ≠ some '\n') :
    collapse (List.replicate (more + 1) '\n' ++ later) =
      List.replicate (more / 2 + 1) '\n' ++ collapse later := by
  induction more using Nat.twoStepInduction with
  | zero => exact collapse_cons_newline fresh
  | one => rfl
  | more n ih _ =>
      rw [show (n + 2) / 2 = n / 2 + 1 by omega]
      change collapse ('\n' :: '\n' :: (List.replicate (n + 1) '\n' ++ later)) = _
      rw [collapse_pair, ih]
      rfl

theorem collapse_append_of_notMem {front : List Char} (outside : '\n' ∉ front)
    (later : List Char) : collapse (front ++ later) = front ++ collapse later := by
  induction front with
  | nil => rfl
  | cons c front ih =>
      rw [List.cons_append, collapse_cons_of_ne (List.ne_of_not_mem_cons outside).symm,
        ih (List.not_mem_of_not_mem_cons outside), List.cons_append]

theorem Alternating.collapse_flatten {pieces : List (List Char)}
    (alternating : Alternating pieces) :
    collapse pieces.flatten = (pieces.map halve).flatten := by
  induction alternating with
  | nil => rfl
  | @cons c more later fresh _ ih =>
      rw [List.flatten_cons, List.map_cons, List.flatten_cons, ← ih]
      by_cases newline : c = '\n'
      · subst newline
        rw [collapse_replicate_append more fresh, halve_replicate_newline]
      · have outside : '\n' ∉ List.replicate (more + 1) c := fun member =>
          newline (List.eq_of_mem_replicate member).symm
        rw [collapse_append_of_notMem outside, halve_replicate_of_ne newline]

/-- The pass halves the runs of newlines. -/
theorem collapse_eq_flatten_halve (text : List Char) :
    collapse text = ((runs text).map halve).flatten := by
  rw [← (alternating_runs text).collapse_flatten, flatten_runs]

theorem head?_collapse (text : List Char) : (collapse text).head? = text.head? := by
  fun_cases collapse text <;> rfl

theorem getLast?_collapse (text : List Char) : (collapse text).getLast? = text.getLast? := by
  fun_induction collapse text with
  | case1 => rfl
  | case2 rest ih => simp [List.getLast?_cons, ih]
  | case3 c rest _ ih => simp [List.getLast?_cons, ih]

theorem IsTrimmed.collapse {text : List Char} (trimmed : IsTrimmed text) :
    IsTrimmed (collapse text) where
  first := by
    rw [head?_collapse]
    exact trimmed.first
  last := by
    rw [getLast?_collapse]
    exact trimmed.last

/-- Halving leaves every run followed by one of another character. -/
theorem Alternating.map_halve {pieces : List (List Char)} (alternating : Alternating pieces) :
    Alternating (pieces.map halve) := by
  induction alternating with
  | nil => exact .nil
  | @cons c more later fresh alternating ih =>
      have fresh' : (later.map halve).flatten.head? ≠ some c := by
        rwa [← alternating.collapse_flatten, head?_collapse]
      rw [List.map_cons]
      by_cases newline : c = '\n'
      · subst newline
        rw [halve_replicate_newline]
        exact .cons _ fresh' ih
      · rw [halve_replicate_of_ne newline]
        exact .cons _ fresh' ih

/-- The runs of a collapsed text are the halved runs. -/
theorem runs_collapse (text : List Char) : runs (collapse text) = (runs text).map halve := by
  rw [collapse_eq_flatten_halve, (alternating_runs text).map_halve.runs_flatten]

/-! ## Long runs -/

theorem doubled_replicate_append (more : Nat) {c : Char} {later : List Char}
    (fresh : later.head? ≠ some c) :
    ['\n', '\n'] <:+: List.replicate (more + 1) c ++ later ↔
      (c = '\n' ∧ 1 ≤ more) ∨ ['\n', '\n'] <:+: later := by
  induction more with
  | zero =>
      have apart : ¬['\n', '\n'] <+: c :: later := by
        rintro ⟨rest, same⟩
        obtain ⟨rfl, rfl⟩ := List.cons.inj same
        exact fresh rfl
      simp [List.infix_cons_iff, apart]
  | succ more ih =>
      rw [List.replicate_succ, List.cons_append, List.infix_cons_iff, ih]
      simp only [List.replicate_succ, List.cons_append, List.cons_prefix_cons, List.nil_prefix,
        and_true]
      constructor
      · rintro (⟨rfl, -⟩ | ⟨rfl, -⟩ | behind)
        · exact .inl ⟨rfl, by omega⟩
        · exact .inl ⟨rfl, by omega⟩
        · exact .inr behind
      · rintro (⟨rfl, -⟩ | behind)
        · exact .inl ⟨rfl, rfl⟩
        · exact .inr (.inr behind)

theorem Alternating.doubled_iff {pieces : List (List Char)} (alternating : Alternating pieces) :
    ['\n', '\n'] <:+: pieces.flatten ↔ ∃ run ∈ pieces, '\n' ∈ run ∧ 2 ≤ run.length := by
  induction alternating with
  | nil => simp
  | @cons c more later fresh _ ih =>
      rw [List.flatten_cons, doubled_replicate_append more fresh, ih, List.exists_mem_cons_iff,
        List.length_replicate, List.mem_replicate]
      refine or_congr_left ⟨?_, ?_⟩
      · rintro ⟨rfl, long⟩
        exact ⟨⟨by omega, rfl⟩, by omega⟩
      · rintro ⟨⟨-, rfl⟩, long⟩
        exact ⟨rfl, by omega⟩

theorem doubled_iff_hasRun (text : List Char) : ['\n', '\n'] <:+: text ↔ HasRun 2 text := by
  rw [HasRun, ← (alternating_runs text).doubled_iff, flatten_runs]

theorem hasRun_collapse_iff (text : List Char) : HasRun 2 (collapse text) ↔ HasRun 3 text := by
  rw [HasRun, runs_collapse, HasRun]
  simp only [List.mem_map, exists_exists_and_eq_and, mem_halve]
  refine exists_congr fun run => and_congr_right fun _ => and_congr_right fun newline => ?_
  rw [length_halve newline]
  omega

/-- Only texts without two newlines in a row are left as they are. -/
theorem collapse_eq_self_iff (text : List Char) : collapse text = text ↔ ¬HasRun 2 text := by
  have kept : collapse text = text ↔ (runs text).map halve = (runs text).map id := by
    rw [List.map_id, ← runs_collapse]
    exact ⟨congrArg runs, fun same => by rw [← flatten_runs (collapse text), same, flatten_runs]⟩
  rw [kept, List.map_inj_left]
  simp only [id, halve_eq_self_iff, HasRun, not_exists, not_and]

/-! ## Normal layout -/

theorem normalize_normalize (text : List Char) :
    normalize (normalize text) = collapse (collapse (trim text)) ++ ['\n'] := by
  rw [normalize, normalize, trim_concat_of_isBlank isBlank_newline,
    trim_eq_self (isTrimmed_trim text).collapse]

/-- The newline at the end of a text in normal layout follows another character. -/
theorem doubled_normalize_iff (text : List Char) :
    ['\n', '\n'] <:+: normalize text ↔ HasRun 2 (collapse (trim text)) := by
  rw [← doubled_iff_hasRun, normalize, List.infix_concat_iff]
  refine or_iff_right ?_
  rintro ⟨front, ends⟩
  have last : front ++ ['\n'] = collapse (trim text) :=
    List.append_cancel_right (by simpa using ends)
  have visible := (isTrimmed_trim text).collapse.last '\n' (by simp [← last])
  simp at visible

/-- Normal layout is the trimmed text with every run of newlines halved, and a newline; all that is
trimmed are blank characters at both ends.  Two newlines in a row are left, and layout is not yet
stable, just where there were three or more. -/
theorem normalize_laws (text : List Char) :
    IsTrimmed (trim text) ∧
      (∃ front back, text = front ++ trim text ++ back ∧ ∀ c ∈ front ++ back, isBlank c = true) ∧
      normalize text = ((runs (trim text)).map halve).flatten ++ ['\n'] ∧
      (['\n', '\n'] <:+: normalize text ↔ HasRun 3 (trim text)) ∧
      (normalize (normalize text) = normalize text ↔ ¬HasRun 3 (trim text)) := by
  refine ⟨isTrimmed_trim text, exists_eq_append_trim text, ?_, ?_, ?_⟩
  · rw [normalize, collapse_eq_flatten_halve]
  · rw [doubled_normalize_iff, hasRun_collapse_iff]
  · rw [normalize_normalize, normalize, List.append_left_inj, collapse_eq_self_iff,
      hasRun_collapse_iff]

example : normalize "\n\na\n\n\nb\n\nc \n".toList = "a\n\nb\nc\n".toList := by
  decide

end PartDefs.Text
