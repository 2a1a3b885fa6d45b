import PartDefs.Proofs.FileTree.Retrace
import PartDefs.Proofs.Writing

/-!
# Writing a text twice

Once a text has been written, its directory is there and its path leads to the file.  So to write
the same text to the same path again needs no new directory and changes nothing.
-/

namespace PartDefs

variable {α β : Type} {pre : FileTree → Prop}

/-- From a tree of one kind a task that ends well leads to a value and a tree of another kind. -/
def Task.Leads (pre : FileTree → Prop) (task : Task SessionM α) (post : α → FileTree → Prop) :
    Prop :=
  ∀ session value later, pre session.tree → task.runIn session = (.ok value, later) →
    post value later.tree

namespace Task

variable {post : α → FileTree → Prop}

theorem leads_pure {value : α} (here : ∀ tree, pre tree → post value tree) :
    Leads pre (pure value) post := by
  rintro session _ _ start ⟨⟩
  exact here session.tree start

theorem leads_throw (failure : Failure) : Leads pre (throw failure) post := by
  rintro session _ _ _ ⟨⟩

theorem leads_trivial (task : Task SessionM α) : Leads pre task fun _ _ => True :=
  fun _ _ _ _ _ => trivial

theorem leads_isDirectory (path : Path) :
    Leads pre (Workspace.isDirectory path) fun there tree =>
      pre tree ∧ tree.isDirectory path = there := by
  rintro session _ _ start ⟨⟩
  exact ⟨start, rfl⟩

theorem leads_makeDirectory (path : Path) :
    Leads pre (Workspace.makeDirectory path) fun made tree =>
      made = .ok () → tree.isDirectory path = true := by
  rintro session _ _ start ⟨⟩ made
  cases result : session.tree.makeDirectory path with
  | error fault => simp [result] at made
  | ok tree => exact FileTree.isDirectory_of_makeDirectory result

theorem Leads.bind {task : Task SessionM α} {next : α → Task SessionM β}
    {post' : β → FileTree → Prop} (leads : task.Leads pre post)
    (leads' : ∀ value, (next value).Leads (post value) post') :
    Leads pre (task >>= next) post' := by
  intro session value later start run
  rw [runIn_bind] at run
  split at run
  · next middle between first =>
      exact leads' middle between value later (leads _ _ _ start first) run
  · cases run

end Task

/-! ## The directory of a file -/

theorem leads_ensureDirectory (path : Path) :
    Task.Leads pre (ensureDirectory path) fun made tree =>
      made = .ok () → tree.isDirectory path = true := by
  refine (Task.leads_makeDirectory path).bind fun made => ?_
  cases made with
  | ok _ => exact Task.leads_pure fun tree there => there
  | error fault =>
      dsimp only
      split
      · refine (Task.leads_isDirectory path).bind fun there => ?_
        split
        · next directory => exact Task.leads_pure fun tree looked _ => looked.2.trans directory
        · exact Task.leads_pure fun _ _ same => by cases same
      · exact Task.leads_pure fun _ _ same => by cases same

/-- If all goes well the first of the paths names a directory in the end. -/
theorem leads_makeDirectories {path : Path} (named : path.text ≠ "") (parents : List Path) :
    Task.Leads pre (makeDirectories (path :: parents)) fun made tree =>
      made = .ok () → tree.isDirectory path = true := by
  rw [makeDirectories, if_neg named]
  refine (leads_ensureDirectory path).bind fun made => ?_
  cases made with
  | ok _ => exact Task.leads_pure fun tree there => there
  | error fault =>
      dsimp only
      split
      · refine (Task.leads_trivial _).bind fun above => ?_
        cases above with
        | error fault => exact Task.leads_pure fun _ _ same => by cases same
        | ok _ => exact leads_ensureDirectory path
      · exact Task.leads_pure fun _ _ same => by cases same

theorem Path.exists_ancestors_eq_cons (path : Path) :
    ∃ parents, path.ancestors = path :: parents := by
  rw [ancestors]
  split
  · exact ⟨[], rfl⟩
  · exact ⟨_, rfl⟩

theorem leads_prepareDirectory (path : Path) :
    Task.Leads pre (prepareDirectory path) fun _ tree => tree.hasDirectory path = true := by
  rw [prepareDirectory]
  simp only [FileTree.hasDirectory]
  cases path.parent? with
  | none => exact Task.leads_pure fun _ _ => rfl
  | some parent =>
      simp only [Option.all_some, Bool.or_eq_true, decide_eq_true_iff]
      split
      · next empty => exact Task.leads_pure fun _ _ => .inl empty
      · next named =>
          refine (Task.leads_isDirectory parent).bind fun there => ?_
          split
          · next directory => exact Task.leads_pure fun _ looked => .inr (looked.2.trans directory)
          · obtain ⟨parents, line⟩ := parent.exists_ancestors_eq_cons
            rw [line]
            refine (leads_makeDirectories named parents).bind fun made => ?_
            cases made with
            | error fault => exact Task.leads_throw _
            | ok _ => exact Task.leads_pure fun _ made => .inr (made rfl)

/-! ## The file -/

/-- A tree in which a text has been written to a path, in a directory made for it if need be. -/
structure FileTree.Written (before : FileTree) (path : Path) (text : String) (place : FileLocation)
    (after : FileTree) : Prop where
  /-- What was found before is still there. -/
  persists : before.Persists after
  /-- No other file has changed. -/
  kept : ∀ other node, other ≠ place → before.node? other = some node →
    after.node? other = some node
  /-- The path leads to the text. -/
  found : after.find path = .ok (place, .file text.toUTF8)
  /-- There is a directory for the file. -/
  prepared : after.hasDirectory path = true
  /-- The path goes on leading to the place of the file. -/
  chosen : after.target path = .ok place

theorem FileTree.Persists.hasDirectory {before after : FileTree} {path : Path}
    (persists : before.Persists after) (prepared : before.hasDirectory path = true) :
    after.hasDirectory path = true := by
  rw [FileTree.hasDirectory, Option.all_eq_true] at prepared ⊢
  intro parent above
  rcases Bool.or_eq_true_iff.1 (prepared parent above) with empty | directory
  · exact Bool.or_eq_true_iff.2 (.inl empty)
  · exact Bool.or_eq_true_iff.2 (.inr (persists.isDirectory directory))

theorem FileTree.Grows.written {before middle : FileTree} {path : Path} {paths : List Path}
    {place : FileLocation} (grows : before.Grows paths [] middle)
    (prepared : middle.hasDirectory path = true) (chosen : middle.target path = .ok place)
    (text : String) :
    before.Written path text place (middle.put place (.file text.toUTF8)) := by
  obtain ⟨_, _, -, -, -, free, same⟩ := FileTree.target_eq_ok_iff.1 chosen
  rw [← same] at free
  have persists : middle.Persists (middle.put place (.file text.toUTF8)) :=
    FileTree.persists_put free
  refine ⟨grows.persists.trans persists, ?_, FileTree.find_put_of_target chosen,
    persists.hasDirectory prepared, FileTree.target_put chosen⟩
  intro other node apart here
  rw [FileTree.node?_put_of_ne _ _ apart]
  exact grows.kept other node List.not_mem_nil here

/-- To write the text again changes nothing. -/
theorem FileTree.Written.write_eq_self {before after : FileTree} {path : Path} {text : String}
    {place : FileLocation} (written : before.Written path text place after) :
    after.write path text.toUTF8 = .ok after := by
  obtain ⟨_, _, -, -, -, -, same⟩ := FileTree.target_eq_ok_iff.1 written.chosen
  have below : place ≠ [] := by simp [same]
  have there := (FileTree.find_eq_ok_iff.1 written.found).2.2.1
  rw [FileTree.write, written.chosen, Except.map, FileTree.put_eq_self below there]

/-- If the writing of a text ends well, the text is written. -/
theorem exists_written_of_runIn_writeText {path : Path} {text : String} {session later : Session}
    (run : Task.runIn (writeText path text) session = (.ok (), later)) :
    ∃ place, session.tree.Written path text place later.tree := by
  rcases prepared : (prepareDirectory path : Task SessionM Unit).runIn session with ⟨result, middle⟩
  cases result with
  | error failure =>
      rw [writeText, Task.runIn_bind_of_error prepared] at run
      cases run
  | ok _ =>
      have grows := (builds_prepareDirectory path session).1
      rw [prepared] at grows
      have leads : Task.Leads (fun _ => True) (prepareDirectory path) _ :=
        leads_prepareDirectory path
      have ready := leads session _ middle trivial prepared
      have wrote := runIn_writeFile path text.toUTF8 middle
      rw [writeText, Task.runIn_bind_of_ok prepared] at run
      rw [FileTree.write] at wrote
      cases chosen : middle.tree.target path with
      | error fault =>
          rw [chosen] at wrote
          rw [Task.runIn_bind_of_ok wrote] at run
          cases run
      | ok place =>
          rw [chosen] at wrote
          rw [Task.runIn_bind_of_ok wrote] at run
          cases run
          exact ⟨place, grows.written ready chosen text⟩

/-- In a tree in which a text has been written it can be written again without a change. -/
theorem FileTree.Written.runIn_again {before : FileTree} {path : Path} {text : String}
    {place : FileLocation} {session : Session}
    (written : before.Written path text place session.tree) :
    ∃ later, Task.runIn (writeText path text) session = (.ok (), later) ∧
      later.tree = session.tree := by
  have wrote := runIn_writeFile path text.toUTF8 session
  rw [written.write_eq_self] at wrote
  rw [writeText, Task.runIn_bind_of_ok (prepareDirectory_of_hasDirectory written.prepared),
    Task.runIn_bind_of_ok wrote]
  exact ⟨_, rfl, rfl⟩

/-! ## Making a text and writing it again -/

section Write

variable {render : Task SessionM String} {answer : FileTree → Except Failure String}
  {path : Path} {session later : Session}

/-- A run that ends well has made its text and written it. -/
theorem exists_written_of_runIn_writeTo {target : Path} (inspects : render.Inspects answer)
    (run : (render.writeTo path).runIn session = (.ok target, later)) :
    target = path ∧ ∃ text place, answer session.tree = .ok text ∧
      session.tree.Written path text place later.tree := by
  obtain ⟨notices, made⟩ := inspects session
  cases computed : answer session.tree with
  | error failure =>
      rw [computed] at made
      rw [Task.writeTo, Task.runIn_bind_of_error made] at run
      cases run
  | ok text =>
      rw [computed] at made
      rw [Task.writeTo, Task.runIn_bind_of_ok made, Task.runIn_bind] at run
      split at run
      · next between wrote =>
          cases run
          obtain ⟨place, written⟩ := exists_written_of_runIn_writeText wrote
          exact ⟨rfl, text, place, rfl, written⟩
      · cases run

/-- Where a text has been written, a run that makes the same text changes nothing. -/
theorem FileTree.Written.runIn_writeTo {before : FileTree} {text : String} {place : FileLocation}
    (written : before.Written path text place session.tree) (inspects : render.Inspects answer)
    (same : answer session.tree = .ok text) :
    ∃ final, (render.writeTo path).runIn session = (.ok path, final) ∧
      final.tree = session.tree := by
  obtain ⟨notices, made⟩ := inspects session
  rw [same] at made
  have kept : before.Written path text place
      ({ session with notices := session.notices ++ notices } : Session).tree := written
  obtain ⟨final, wrote, unchanged⟩ := kept.runIn_again
  rw [Task.writeTo, Task.runIn_bind_of_ok made, Task.runIn_bind_of_ok wrote]
  exact ⟨final, rfl, unchanged⟩

end Write

end PartDefs
