import PartDefs.Proofs.FileTree.Growth
import PartDefs.Proofs.Path.Names

/-!
# Following a path again

After a file has been written, every path that led to another file still leads to it, and the path
of the file leads to the place where it was put.  Where a path leads to a file, the name of the file
is the last name of the path.
-/

namespace PartDefs
namespace FileTree

variable {tree before middle after : FileTree} {path : Path} {place : FileLocation}
  {content : ByteArray}

theorem read_eq_ok_iff :
    tree.read path = .ok content ↔ ∃ place, tree.find path = .ok (place, .file content) := by
  rw [read]
  cases tree.find path with
  | error fault => simp
  | ok found =>
      obtain ⟨place, node⟩ := found
      cases node with
      | directory => simp
      | file other => simp [eq_comm]

/-! ## The last step -/

theorem follow_append_eq_ok_iff {front back : List Path.Step} {next : FileLocation} :
    tree.follow place (front ++ back) = .ok next ↔
      ∃ between, tree.follow place front = .ok between ∧ tree.follow between back = .ok next := by
  constructor
  · intro found
    induction front generalizing place with
    | nil => exact ⟨place, rfl, found⟩
    | cons first front ih =>
        rw [List.cons_append, follow] at found
        rw [follow]
        cases taken : tree.step place first with
        | error error => simp [taken] at found
        | ok following =>
            rw [taken] at found
            exact ih found
  · rintro ⟨between, found, later⟩
    rw [follow_append found, later]

theorem follow_singleton (step : Path.Step) : tree.follow place [step] = tree.step place step := by
  rw [follow]
  cases tree.step place step <;> rfl

/-- A path that leads to a file ends in the name of the file. -/
theorem exists_down_of_find_file (inside : tree.IsTree)
    (found : tree.find path = .ok (place, .file content)) :
    ∃ name parent, path.steps.getLast? = some (.down name) ∧ place = name :: parent := by
  obtain ⟨valid, followed, there, kind⟩ := find_eq_ok_iff.1 found
  have plain : path.asksForDirectory = false := kind.resolve_left (by simp)
  have written : path.text ≠ "" := by
    intro empty
    simp [checkPath, empty] at valid
  obtain ⟨front, name, ends⟩ := Path.exists_endsIn written plain
  have cut := List.dropLast_append_getLast? _ ends.getLast?_steps
  rw [← cut, follow_append_eq_ok_iff] at followed
  obtain ⟨parent, -, last⟩ := followed
  rw [follow_singleton] at last
  rw [ends.getLast?_steps]
  generalize Path.Step.ofComponent (String.ofList name) = final at last
  obtain ⟨directory, arrived⟩ := step_eq_ok_iff.1 last
  cases final with
  | here =>
      obtain rfl : place = parent := arrived
      rw [directory] at there
      cases there
  | up =>
      -- Above a directory there is a directory, so no file can be reached this way.
      obtain rfl : place = parent.tail := arrived
      cases parent with
      | nil =>
          rw [List.tail_nil, directory] at there
          cases there
      | cons name above =>
          have outer := inside name above (by rw [directory]; rfl)
          rw [List.tail_cons, outer] at there
          cases there
  | down name => exact ⟨name, parent, rfl, arrived.2.2⟩

/-! ## Writing again -/

theorem put_eq_self {node : FileNode} (below : place ≠ []) (there : tree.node? place = some node) :
    tree.put place node = tree := by
  rw [node?, if_neg below] at there
  rw [put, OrderedMap.insert_eq_self there]

theorem Persists.trans (first : before.Persists middle) (second : middle.Persists after) :
    before.Persists after where
  home := second.home.trans first.home
  directory place there := second.directory place (first.directory place there)
  present place there := second.present place (first.present place there)

theorem Persists.isDirectory (persists : before.Persists after)
    (directory : before.isDirectory path = true) : after.isDirectory path = true := by
  rw [FileTree.isDirectory] at directory ⊢
  split at directory
  · next place found => rw [persists.find_directory found]
  · cases directory

/-- A path that led to a file leads to what has come into its place. -/
theorem Persists.find_of_find_file (persists : before.Persists after) {node : FileNode}
    (found : before.find path = .ok (place, .file content))
    (there : after.node? place = some node) : after.find path = .ok (place, node) := by
  obtain ⟨valid, followed, -, kind⟩ := find_eq_ok_iff.1 found
  refine find_eq_ok_iff.2 ⟨valid, ?_, there, .inr (kind.resolve_left (by simp))⟩
  rw [persists.start]
  exact persists.follow followed

theorem Persists.findLast (persists : before.Persists after) {last : Option Path.Step}
    (found : before.findLast path = .ok (place, last)) :
    after.findLast path = .ok (place, last) := by
  obtain ⟨valid, followed, directory, final⟩ := findLast_eq_ok_iff.1 found
  refine findLast_eq_ok_iff.2 ⟨valid, ?_, persists.directory place directory, final⟩
  rw [persists.start]
  exact persists.follow followed

theorem target_put (chosen : before.target path = .ok place) :
    (before.put place (.file content)).target path = .ok place := by
  obtain ⟨parent, name, found, plain, short, free, rfl⟩ := target_eq_ok_iff.1 chosen
  have there := before.node?_put_self (.file content) (List.cons_ne_nil name parent)
  exact target_eq_ok_iff.2
    ⟨parent, name, (persists_put free).findLast found, plain, short, by simp [there], rfl⟩

theorem isDirectory_of_makeDirectory (made : before.makeDirectory path = .ok after) :
    after.isDirectory path = true := by
  obtain ⟨_, -, -, found⟩ := exists_put_of_makeDirectory made
  rw [isDirectory, found]

end FileTree
end PartDefs
