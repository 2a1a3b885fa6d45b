import PartDefs.Proofs.FileTree.Growth
import PartDefs.Proofs.Task

/-!
# Writing a text

A text is written in two steps, of which each may fail: directories are made, from the top down,
and then the file.  Up to the file, the tree only grows by directories on the way to it.
-/

namespace PartDefs

variable {α β : Type} {paths : List Path}

/-- Whether a failure arose while the output was written. -/
def Failure.isOutputProblem : Failure → Bool
  | noDirectory _ _ | unwritable _ _ => true
  | _ => false

/-- The paths of the directories that a file is in, the innermost first. -/
def Path.directories (path : Path) : List Path :=
  match path.parent? with
  | none => []
  | some parent => parent.ancestors

/-- Whether there is a directory for the file that a path names. -/
def FileTree.hasDirectory (tree : FileTree) (path : Path) : Bool :=
  path.parent?.all fun parent => parent.text = "" || tree.isDirectory parent

/-! ## Making directories -/

/-- A task that only adds directories named by some paths, and that fails only in some ways. -/
def Task.Builds (paths : List Path) (fails : Failure → Prop) (task : Task SessionM α) : Prop :=
  ∀ session, session.tree.Grows paths [] (task.runIn session).2.tree ∧
    ∀ failure, (task.runIn session).1 = .error failure → fails failure

namespace Task

variable {fails : Failure → Prop}

/-- What only looks at the tree builds nothing. -/
theorem Inspects.builds {task : Task SessionM α} {answer : FileTree → Except Failure α}
    (inspects : task.Inspects answer)
    (allowed : ∀ tree failure, answer tree = .error failure → fails failure) :
    task.Builds paths fails := by
  intro session
  obtain ⟨notices, run⟩ := inspects session
  rw [run]
  exact ⟨.refl paths session.tree, allowed session.tree⟩

theorem builds_pure (value : α) : Builds paths fails (pure value) :=
  (inspects_pure value).builds fun _ _ failed => by cases failed

theorem builds_throw {failure : Failure} (allowed : fails failure) :
    Builds paths fails (throw failure : Task SessionM α) := by
  refine (inspects_throw failure).builds fun _ other failed => ?_
  obtain rfl : failure = other := Except.error.inj failed
  exact allowed

theorem builds_isDirectory (path : Path) : Builds paths fails (Workspace.isDirectory path) :=
  (inspects_isDirectory path).builds fun _ _ failed => by cases failed

theorem builds_makeDirectory {path : Path} (listed : path ∈ paths) :
    Builds paths fails (Workspace.makeDirectory path) := by
  intro session
  have run : Task.runIn (Workspace.makeDirectory path) session =
      (.ok (session.change (session.tree.makeDirectory path)).1,
        (session.change (session.tree.makeDirectory path)).2) := rfl
  rw [run]
  refine ⟨?_, fun failure failed => by cases failed⟩
  cases made : session.tree.makeDirectory path with
  | error fault => exact .refl paths session.tree
  | ok tree => exact (FileTree.grows_makeDirectory made).mono (by simpa using listed)

theorem Builds.bind {task : Task SessionM α} {next : α → Task SessionM β}
    (builds : task.Builds paths fails) (builds' : ∀ value, (next value).Builds paths fails) :
    Builds paths fails (task >>= next) := by
  intro session
  obtain ⟨grows, allowed⟩ := builds session
  rcases run : task.runIn session with ⟨result, later⟩
  rw [run] at grows allowed
  cases result with
  | error failure =>
      rw [runIn_bind_of_error run]
      refine ⟨grows, fun other failed => ?_⟩
      obtain rfl : failure = other := Except.error.inj failed
      exact allowed failure rfl
  | ok value =>
      rw [runIn_bind_of_ok run]
      obtain ⟨grows', allowed'⟩ := builds' value later
      exact ⟨grows.trans grows', allowed'⟩

theorem Builds.mono {paths' : List Path} {task : Task SessionM α} (sub : paths ⊆ paths')
    (builds : task.Builds paths fails) : task.Builds paths' fails := by
  intro session
  exact ⟨(builds session).1.mono sub, (builds session).2⟩

end Task

theorem builds_ensureDirectory {fails : Failure → Prop} {path : Path} (listed : path ∈ paths) :
    Task.Builds paths fails (ensureDirectory path) := by
  refine (Task.builds_makeDirectory listed).bind fun made => ?_
  cases made with
  | ok _ => exact Task.builds_pure _
  | error fault =>
      dsimp only
      split
      · refine (Task.builds_isDirectory path).bind fun there => ?_
        split
        · exact Task.builds_pure _
        · exact Task.builds_pure _
      · exact Task.builds_pure _

/-- Wherever the making of directories stops, only some of them have been made. -/
theorem builds_makeDirectories {fails : Failure → Prop} (paths : List Path) :
    Task.Builds paths fails (makeDirectories paths) := by
  induction paths with
  | nil => exact Task.builds_pure _
  | cons path parents ih =>
      rw [makeDirectories]
      split
      · exact Task.builds_pure _
      · refine (builds_ensureDirectory List.mem_cons_self).bind fun made => ?_
        cases made with
        | ok _ => exact Task.builds_pure _
        | error fault =>
            dsimp only
            split
            -- Where the parent is missing it is made first, and that may stop anywhere above.
            · refine (ih.mono (List.subset_cons_self path parents)).bind fun above => ?_
              cases above with
              | error fault => exact Task.builds_pure _
              | ok _ => exact builds_ensureDirectory List.mem_cons_self
            · exact Task.builds_pure _

theorem builds_prepareDirectory (path : Path) :
    Task.Builds path.directories (·.isOutputProblem = true) (prepareDirectory path) := by
  rw [prepareDirectory, Path.directories]
  cases path.parent? with
  | none => exact Task.builds_pure _
  | some parent =>
      dsimp only
      split
      · exact Task.builds_pure _
      · refine (Task.builds_isDirectory parent).bind fun there => ?_
        split
        · exact Task.builds_pure _
        · refine (builds_makeDirectories parent.ancestors).bind fun made => ?_
          cases made with
          | error fault => exact Task.builds_throw rfl
          | ok _ => exact Task.builds_pure _

/-! ## Writing -/

theorem runIn_writeFile (path : Path) (content : ByteArray) (session : Session) :
    Task.runIn (Workspace.writeFile path content) session =
      (.ok (session.change (session.tree.write path content)).1,
        (session.change (session.tree.write path content)).2) :=
  rfl

/-- Either the output is not written and at most its directories are there, or it is written. -/
theorem writeText_outcome (path : Path) (text : String) (session : Session) :
    (∃ failure later, Task.runIn (writeText path text) session = (.error failure, later) ∧
      failure.isOutputProblem = true ∧ session.tree.Grows path.directories [] later.tree) ∨
    ∃ place later, Task.runIn (writeText path text) session = (.ok (), later) ∧
      later.tree.find path = .ok (place, .file text.toUTF8) ∧
      session.tree.Grows path.directories [place] later.tree := by
  obtain ⟨grows, allowed⟩ := builds_prepareDirectory path session
  rcases prepared : (prepareDirectory path : Task SessionM Unit).runIn session with ⟨result, later⟩
  rw [prepared] at grows allowed
  cases result with
  | error failure =>
      exact .inl ⟨failure, later, Task.runIn_bind_of_error prepared, allowed failure rfl, grows⟩
  | ok _ =>
      rw [writeText, Task.runIn_bind_of_ok prepared]
      have wrote := runIn_writeFile path text.toUTF8 later
      rw [FileTree.write] at wrote
      cases chosen : later.tree.target path with
      | error fault =>
          rw [chosen] at wrote
          exact .inl ⟨_, _, Task.runIn_bind_of_ok wrote, rfl, grows⟩
      | ok place =>
          rw [chosen] at wrote
          exact .inr ⟨place, _, Task.runIn_bind_of_ok wrote,
            FileTree.find_put_of_target chosen, grows.write chosen⟩

theorem prepareDirectory_of_hasDirectory {path : Path} {session : Session}
    (there : session.tree.hasDirectory path = true) :
    Task.runIn (prepareDirectory path) session = (.ok (), session) := by
  rw [FileTree.hasDirectory] at there
  rw [prepareDirectory]
  cases above : path.parent? with
  | none => rfl
  | some parent =>
      rw [above, Option.all_some, Bool.or_eq_true, decide_eq_true_iff] at there
      dsimp only
      split
      · rfl
      · next named =>
          have directory : session.tree.isDirectory parent = true := there.resolve_left named
          have looked : Task.runIn (Workspace.isDirectory parent) session =
              (.ok true, session) := by
            rw [← directory]
            rfl
          rw [Task.runIn_bind_of_ok looked]
          rfl

theorem writeText_of_target {path : Path} {session : Session} {place : FileLocation}
    (text : String) (there : session.tree.hasDirectory path = true)
    (chosen : session.tree.target path = .ok place) :
    (Task.runIn (writeText path text) session).1 = .ok () := by
  have wrote := runIn_writeFile path text.toUTF8 session
  rw [FileTree.write, chosen] at wrote
  rw [writeText, Task.runIn_bind_of_ok (prepareDirectory_of_hasDirectory there),
    Task.runIn_bind_of_ok wrote]
  rfl

/-! ## Making a text and writing it -/

/-- Makes a text, writes it to a path and tells the path. -/
def Task.writeTo (render : Task SessionM String) (path : Path) : Task SessionM Path :=
  render >>= fun text => writeText path text >>= fun _ => pure path

theorem Project.buildAndWrite_eq (project : Project) (config : Config) (output : Option Path) :
    project.buildAndWrite config output =
      Task.writeTo (project.build config) (output.getD project.outputPath) :=
  rfl

theorem generateFile_eq (input : Path) (output : Option Path) (config : Config) :
    generateFile input output config =
      Task.writeTo
        (readDescriptors input >>= fun parts => perform .ofPart (parts.standaloneTraced config))
        (output.getD (declarationsPath input)) := by
  rw [Task.writeTo, bind_assoc]
  rfl

/-- How a task can end that makes a text and writes it to a path: there is no text, there is no
place for it, or it is written. -/
inductive Task.WritesTo (path : Path) (before : FileTree) :
    Except Failure String → Except Failure Path × Session → Prop where
  | unmade {failure : Failure} {later : Session} :
      later.tree = before →
      WritesTo path before (.error failure) (.error failure, later)
  | unwritten {text : String} {failure : Failure} {later : Session} :
      failure.isOutputProblem = true →
      before.Grows path.directories [] later.tree →
      (∀ place, before.hasDirectory path = true → before.target path ≠ .ok place) →
      WritesTo path before (.ok text) (.error failure, later)
  | written {text : String} {place : FileLocation} {later : Session} :
      later.tree.find path = .ok (place, .file text.toUTF8) →
      before.Grows path.directories [place] later.tree →
      WritesTo path before (.ok text) (.ok path, later)

/-- Such a task leaves the tree as it is until it has its text, and then it can only stop where
there is no place for the text. -/
theorem Task.writesTo_runIn {render : Task SessionM String}
    {answer : FileTree → Except Failure String} (inspects : render.Inspects answer) (path : Path)
    (session : Session) : Task.WritesTo path session.tree (answer session.tree)
      ((render.writeTo path).runIn session) := by
  obtain ⟨notices, made⟩ := inspects session
  rw [Task.writeTo]
  cases computed : answer session.tree with
  | error failure =>
      rw [computed] at made
      rw [Task.runIn_bind_of_error made]
      exact .unmade rfl
  | ok text =>
      rw [computed] at made
      rw [Task.runIn_bind_of_ok made]
      let begun : Session := { session with notices := session.notices ++ notices }
      rcases writeText_outcome path text begun with
        ⟨failure, later, stopped, late, grows⟩ | ⟨place, later, wrote, found, grows⟩
      · rw [Task.runIn_bind_of_error stopped]
        refine .unwritten late grows fun place there chosen => ?_
        have wrote : (Task.runIn (writeText path text) begun).1 = .ok () :=
          writeText_of_target text there chosen
        rw [stopped] at wrote
        cases wrote
      · rw [Task.runIn_bind_of_ok wrote]
        exact .written found grows

end PartDefs
