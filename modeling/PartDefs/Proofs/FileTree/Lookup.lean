import Mathlib.Data.List.Basic
import PartDefs.FileTree

/-!
# Following paths

What it takes for a path to lead somewhere.  Whatever is found stays where it is as long as nothing
is removed and no directory turns into a file.
-/

namespace PartDefs
namespace FileTree

variable {tree before after : FileTree} {path : Path} {place next : FileLocation} {node : FileNode}

/-! ## Conditions of success -/

theorem step_eq_ok_iff {step : Path.Step} : tree.step place step = .ok next ↔
    tree.node? place = some .directory ∧
      match step with
      | .here => next = place
      | .up => next = place.tail
      | .down name => name.utf8ByteSize ≤ maxNameBytes ∧ (tree.node? (name :: place)).isSome ∧
          next = name :: place := by
  unfold FileTree.step
  cases found : tree.node? place with
  | none => simp
  | some node =>
      cases node with
      | file content => simp
      | directory =>
          cases step with
          | here => simp [eq_comm]
          | up => simp [eq_comm]
          | down name =>
              by_cases long : maxNameBytes < name.utf8ByteSize
              · simp [long, Nat.not_le_of_lt long]
              · by_cases present : (tree.node? (name :: place)).isSome
                · simp [long, present, Nat.le_of_not_lt long, eq_comm]
                · simp [long, present]

theorem follow_append {front back : List Path.Step} (found : tree.follow place front = .ok next) :
    tree.follow place (front ++ back) = tree.follow next back := by
  induction front generalizing place with
  | nil =>
      obtain rfl := Except.ok.inj found
      rfl
  | cons first front ih =>
      rw [follow] at found
      rw [List.cons_append, follow]
      cases taken : tree.step place first with
      | error error => simp [taken] at found
      | ok middle =>
          rw [taken] at found
          exact ih found

theorem find_eq_ok_iff : tree.find path = .ok (place, node) ↔
    checkPath path = .ok () ∧ tree.follow (tree.start path) path.steps = .ok place ∧
      tree.node? place = some node ∧ (node = .directory ∨ path.asksForDirectory = false) := by
  constructor
  · intro found
    rw [find] at found
    split at found
    · cases found
    · next valid =>
        split at found
        · cases found
        · next last followed =>
            split at found
            · cases found
            · next there =>
                cases found
                exact ⟨valid, followed, there, .inl rfl⟩
            · next content there =>
                split at found
                · cases found
                · next asks =>
                    cases found
                    exact ⟨valid, followed, there, .inr (by simpa using asks)⟩
  · rintro ⟨valid, followed, there, kind⟩
    cases node with
    | directory => simp only [find, valid, followed, there]
    | file content =>
        have plain : path.asksForDirectory = false := by simpa using kind
        simp [find, valid, followed, there, plain]

theorem findLast_eq_ok_iff {last : Option Path.Step} : tree.findLast path = .ok (place, last) ↔
    checkPath path = .ok () ∧ tree.follow (tree.start path) path.steps.dropLast = .ok place ∧
      tree.node? place = some .directory ∧ path.steps.getLast? = last := by
  constructor
  · intro found
    rw [findLast] at found
    split at found
    · cases found
    · next valid =>
        split at found
        · cases found
        · next parent followed =>
            split at found
            · cases found
            · cases found
            · next there =>
                cases found
                exact ⟨valid, followed, there, rfl⟩
  · rintro ⟨valid, followed, there, rfl⟩
    simp only [findLast, valid, followed, there]

theorem newDirectory_eq_ok_iff : tree.newDirectory path = .ok place ↔
    ∃ parent name, tree.findLast path = .ok (parent, some (.down name)) ∧
      name.utf8ByteSize ≤ maxNameBytes ∧ tree.node? (name :: parent) = none ∧
      place = name :: parent := by
  constructor
  · intro made
    rw [newDirectory] at made
    split at made
    · cases made
    · next parent name found =>
        split at made
        · cases made
        · next long =>
            split at made
            · cases made
            · next present =>
                cases made
                exact ⟨parent, name, found, Nat.le_of_not_lt long, by simpa using present, rfl⟩
    · cases made
  · rintro ⟨parent, name, found, short, absent, rfl⟩
    simp [newDirectory, found, Nat.not_lt_of_le short, absent]

theorem target_eq_ok_iff : tree.target path = .ok place ↔
    ∃ parent name, tree.findLast path = .ok (parent, some (.down name)) ∧
      path.asksForDirectory = false ∧ name.utf8ByteSize ≤ maxNameBytes ∧
      tree.node? (name :: parent) ≠ some .directory ∧ place = name :: parent := by
  constructor
  · intro chosen
    rw [target] at chosen
    split at chosen
    · cases chosen
    · next parent name found =>
        split at chosen
        · cases chosen
        · next asks =>
            split at chosen
            · cases chosen
            · next long =>
                split at chosen
                · cases chosen
                · next taken =>
                    cases chosen
                    refine ⟨parent, name, found, by simpa using asks,
                      Nat.le_of_not_lt long, ?_, rfl⟩
                    intro directory
                    exact taken (by rw [directory]; rfl)
    · cases chosen
  · rintro ⟨parent, name, found, asks, short, free, rfl⟩
    have free' : (tree.node? (name :: parent)).any FileNode.isDirectory = false := by
      cases there : tree.node? (name :: parent) with
      | none => rfl
      | some node =>
          cases node with
          | directory => exact absurd there free
          | file content => rfl
    simp [target, found, asks, Nat.not_lt_of_le short, free']

/-! ## Persistence -/

/-- Everything in one tree is in another, too, and directories are directories there. -/
structure Persists (before after : FileTree) : Prop where
  home : after.home = before.home
  directory : ∀ place, before.node? place = some .directory →
    after.node? place = some .directory
  present : ∀ place, (before.node? place).isSome → (after.node? place).isSome

theorem Persists.step (persists : before.Persists after) {step : Path.Step}
    (taken : before.step place step = .ok next) : after.step place step = .ok next := by
  obtain ⟨directory, arrived⟩ := step_eq_ok_iff.1 taken
  refine step_eq_ok_iff.2 ⟨persists.directory place directory, ?_⟩
  cases step with
  | here => exact arrived
  | up => exact arrived
  | down name =>
      obtain ⟨short, present, here⟩ := arrived
      exact ⟨short, persists.present _ present, here⟩

theorem Persists.follow (persists : before.Persists after) {steps : List Path.Step}
    (found : before.follow place steps = .ok next) : after.follow place steps = .ok next := by
  induction steps generalizing place with
  | nil => exact found
  | cons first later ih =>
      rw [FileTree.follow] at found ⊢
      cases taken : before.step place first with
      | error error => simp [taken] at found
      | ok middle =>
          rw [taken] at found
          rw [persists.step taken]
          exact ih found

theorem Persists.start (persists : before.Persists after) (path : Path) :
    after.start path = before.start path := by
  rw [FileTree.start, FileTree.start, persists.home]

theorem Persists.find_directory (persists : before.Persists after)
    (found : before.find path = .ok (place, .directory)) :
    after.find path = .ok (place, .directory) := by
  obtain ⟨valid, followed, there, -⟩ := find_eq_ok_iff.1 found
  refine find_eq_ok_iff.2 ⟨valid, ?_, persists.directory place there, .inl rfl⟩
  rw [persists.start]
  exact persists.follow followed

/-- What is put below the directory in which a path has its last step is found by the path. -/
theorem Persists.find_below (persists : before.Persists after) {name : String}
    (found : before.findLast path = .ok (place, some (.down name)))
    (short : name.utf8ByteSize ≤ maxNameBytes) (there : after.node? (name :: place) = some node)
    (kind : node = .directory ∨ path.asksForDirectory = false) :
    after.find path = .ok (name :: place, node) := by
  obtain ⟨valid, followed, directory, last⟩ := findLast_eq_ok_iff.1 found
  have cut : path.steps.dropLast ++ [.down name] = path.steps :=
    List.dropLast_append_getLast? _ last
  have taken : after.step place (.down name) = .ok (name :: place) :=
    step_eq_ok_iff.2 ⟨persists.directory place directory, short, by simp [there], rfl⟩
  refine find_eq_ok_iff.2 ⟨valid, ?_, there, kind⟩
  rw [persists.start, ← cut, follow_append (persists.follow followed), FileTree.follow, taken]
  rfl

end FileTree
end PartDefs
