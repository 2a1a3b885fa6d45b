import PartDefs.Proofs.FileTree.Lookup

/-!
# Growing trees

Making directories adds to a tree and changes nothing that is there.  A tree that grows in several
steps has grown as a whole, since every path that names a new directory goes on naming it.
-/

namespace PartDefs
namespace FileTree

variable {before middle after : FileTree} {path : Path} {paths : List Path}
  {place : FileLocation}

/-- Whatever is in a tree is in a directory of the tree. -/
def IsTree (tree : FileTree) : Prop :=
  ∀ name place, (tree.node? (name :: place)).isSome → tree.node? place = some .directory

theorem isTree_of_keys
    (inside : ∀ place ∈ before.nodes.keys, (before.node? place.tail).any FileNode.isDirectory) :
    before.IsTree := by
  intro name place present
  have listed : name :: place ∈ before.nodes.keys := by
    by_contra absent
    simp [node?, OrderedMap.get?_eq_none_iff.2 absent] at present
  have above := inside (name :: place) listed
  rw [List.tail_cons] at above
  cases there : before.node? place with
  | none => simp [there] at above
  | some node =>
      cases node with
      | directory => rfl
      | file content => simp [there, FileNode.isDirectory] at above

/-- Apart from some places, a tree keeps everything and gets only directories that are named by
some paths. -/
structure Grows (paths : List Path) (changed : List FileLocation) (before after : FileTree) :
    Prop where
  home : after.home = before.home
  kept : ∀ place node, place ∉ changed → before.node? place = some node →
    after.node? place = some node
  added : ∀ place, place ∉ changed → before.node? place = none →
    (after.node? place).isSome → ∃ path ∈ paths, after.find path = .ok (place, .directory)

namespace Grows

theorem refl (paths : List Path) (tree : FileTree) : tree.Grows paths [] tree where
  home := rfl
  kept := fun _ _ _ there => there
  added := by
    intro place _ absent present
    rw [absent] at present
    cases present

theorem mono {paths' : List Path} {changed : List FileLocation} (sub : paths ⊆ paths')
    (grows : before.Grows paths changed after) : before.Grows paths' changed after where
  home := grows.home
  kept := grows.kept
  added := by
    intro place unchanged absent present
    obtain ⟨path, listed, found⟩ := grows.added place unchanged absent present
    exact ⟨path, sub listed, found⟩

theorem persists (grows : before.Grows paths [] after) : before.Persists after where
  home := grows.home
  directory := fun place there => grows.kept place .directory List.not_mem_nil there
  present := by
    intro place there
    obtain ⟨node, there⟩ := Option.isSome_iff_exists.1 there
    rw [grows.kept place node List.not_mem_nil there]
    rfl

theorem trans (grows : before.Grows paths [] middle) (grows' : middle.Grows paths [] after) :
    before.Grows paths [] after where
  home := grows'.home.trans grows.home
  kept := fun place node unchanged there =>
    grows'.kept place node unchanged (grows.kept place node unchanged there)
  added := by
    intro place unchanged absent present
    by_cases between : (middle.node? place).isSome
    · obtain ⟨path, listed, found⟩ := grows.added place unchanged absent between
      exact ⟨path, listed, grows'.persists.find_directory found⟩
    · exact grows'.added place unchanged (Option.not_isSome_iff_eq_none.1 between) present

/-- There are no files below the new directories of a tree. -/
theorem vacant (grows : before.Grows paths [] after) (tree : before.IsTree) :
    ∀ place below content, before.node? place = none → place <:+ below →
      after.node? below ≠ some (.file content) := by
  intro place below content absent inside there
  -- A file is not new, so everything on the way to it was there before.
  have former : (before.node? below).isSome := by
    by_contra new
    obtain ⟨path, -, found⟩ := grows.added below List.not_mem_nil
      (Option.not_isSome_iff_eq_none.1 new) (by rw [there]; rfl)
    have directory := (find_eq_ok_iff.1 found).2.2.1
    rw [there] at directory
    cases directory
  have above : ∀ front, (before.node? (front ++ place)).isSome → (before.node? place).isSome := by
    intro front
    induction front with
    | nil => exact id
    | cons name front ih =>
        intro present
        have directory := tree name (front ++ place) present
        exact ih (by rw [directory]; rfl)
  obtain ⟨front, rfl⟩ := inside
  have present := above front former
  rw [absent] at present
  cases present

end Grows

/-! ## Making a directory -/

theorem persists_put {node : FileNode} (free : before.node? place ≠ some .directory) :
    before.Persists (before.put place node) where
  home := rfl
  directory := by
    intro other there
    have apart : other ≠ place := by
      rintro rfl
      exact free there
    rw [node?_put_of_ne _ _ apart]
    exact there
  present := by
    intro other there
    by_cases same : other = place
    · subst same
      have below : other ≠ [] := by
        rintro rfl
        exact free rfl
      rw [node?_put_self _ _ below]
      rfl
    · rw [node?_put_of_ne _ _ same]
      exact there

/-- A directory is made in a vacant place, to which its path leads then. -/
theorem exists_put_of_makeDirectory (made : before.makeDirectory path = .ok after) :
    ∃ place, before.node? place = none ∧ after = before.put place .directory ∧
      after.find path = .ok (place, .directory) := by
  rw [makeDirectory] at made
  cases chosen : before.newDirectory path with
  | error fault => simp [chosen, Except.map] at made
  | ok place =>
      obtain ⟨parent, name, found, short, absent, rfl⟩ := newDirectory_eq_ok_iff.1 chosen
      obtain rfl : before.put (name :: parent) .directory = after := by
        simpa [chosen, Except.map] using made
      have persists : before.Persists (before.put (name :: parent) .directory) :=
        persists_put (by simp [absent])
      have there := before.node?_put_self .directory (List.cons_ne_nil name parent)
      exact ⟨_, absent, rfl, persists.find_below found short there (.inl rfl)⟩

theorem grows_makeDirectory (made : before.makeDirectory path = .ok after) :
    before.Grows [path] [] after := by
  obtain ⟨place, absent, rfl, found⟩ := exists_put_of_makeDirectory made
  refine ⟨rfl, ?_, ?_⟩
  · intro other node _ there
    have apart : other ≠ place := by
      rintro rfl
      rw [absent] at there
      cases there
    rw [node?_put_of_ne _ _ apart]
    exact there
  · intro other _ absent' present
    have same : other = place := by
      by_contra apart
      rw [node?_put_of_ne _ _ apart, absent'] at present
      cases present
    exact ⟨path, List.mem_singleton_self path, same ▸ found⟩

/-! ## Writing a file -/

/-- What is written to a path is found there. -/
theorem find_put_of_target {content : ByteArray} (chosen : before.target path = .ok place) :
    (before.put place (.file content)).find path = .ok (place, .file content) := by
  obtain ⟨parent, name, found, plain, short, free, rfl⟩ := target_eq_ok_iff.1 chosen
  exact (persists_put free).find_below found short
    (node?_put_self _ _ (List.cons_ne_nil name parent)) (.inr plain)

theorem Grows.write {content : ByteArray} (grows : before.Grows paths [] middle)
    (chosen : middle.target path = .ok place) :
    before.Grows paths [place] (middle.put place (.file content)) := by
  obtain ⟨parent, name, -, -, -, free, rfl⟩ := target_eq_ok_iff.1 chosen
  refine ⟨grows.home, ?_, ?_⟩
  · intro other node unchanged there
    rw [node?_put_of_ne _ _ (List.ne_of_not_mem_cons unchanged)]
    exact grows.kept other node List.not_mem_nil there
  · intro other unchanged absent present
    rw [node?_put_of_ne _ _ (List.ne_of_not_mem_cons unchanged)] at present
    obtain ⟨path, listed, found⟩ := grows.added other List.not_mem_nil absent present
    exact ⟨path, listed, (persists_put free).find_directory found⟩

end FileTree
end PartDefs
