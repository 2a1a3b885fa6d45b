import PartDefs.FileTree
import PartDefs.Project

/-!
# Tasks that only look

Reading inputs and making definitions from them leaves a tree as it is, and what comes of it depends
on the tree alone.  Such a task is described by the function that gives its result for every tree.
-/

namespace PartDefs

variable {α β ε : Type} {session : Session}

/-- Runs a task in a session. -/
def Task.runIn (task : Task SessionM α) (session : Session) : Except Failure α × Session :=
  task.run.run session

/-- A task with a given result for every tree that adds nothing but notices to a session. -/
def Task.Inspects (task : Task SessionM α) (answer : FileTree → Except Failure α) : Prop :=
  ∀ session, ∃ notices, task.runIn session =
    (answer session.tree, { session with notices := session.notices ++ notices })

namespace Task

theorem runIn_bind (task : Task SessionM α) (next : α → Task SessionM β) (session : Session) :
    Task.runIn (task >>= next) session =
      match task.runIn session with
      | (.ok value, later) => (next value).runIn later
      | (.error failure, later) => (.error failure, later) := by
  change ExceptT.bindCont next (task.runIn session).1 (task.runIn session).2 = _
  rcases task.runIn session with ⟨result, later⟩
  cases result <;> rfl

theorem runIn_bind_of_ok {task : Task SessionM α} {next : α → Task SessionM β}
    {later : Session} {value : α} (run : task.runIn session = (.ok value, later)) :
    Task.runIn (task >>= next) session = (next value).runIn later := by
  rw [runIn_bind, run]

theorem runIn_bind_of_error {task : Task SessionM α} {next : α → Task SessionM β}
    {later : Session} {failure : Failure} (run : task.runIn session = (.error failure, later)) :
    Task.runIn (task >>= next) session = (.error failure, later) := by
  rw [runIn_bind, run]

theorem runIn_pure (value : α) (session : Session) :
    Task.runIn (pure value) session = (.ok value, session) :=
  rfl

theorem runIn_throw (failure : Failure) (session : Session) :
    Task.runIn (throw failure : Task SessionM α) session = (.error failure, session) :=
  rfl

theorem runIn_map (f : α → β) (task : Task SessionM α) (session : Session) :
    Task.runIn (f <$> task) session =
      ((task.runIn session).1.map f, (task.runIn session).2) := by
  rw [map_eq_pure_bind, runIn_bind]
  rcases task.runIn session with ⟨result, later⟩
  cases result <;> rfl

/-! ## Rules -/

theorem inspects_pure (value : α) : Inspects (pure value) fun _ => .ok value := by
  intro session
  exact ⟨[], by simp [runIn_pure]⟩

theorem inspects_throw (failure : Failure) :
    Inspects (throw failure : Task SessionM α) fun _ => .error failure := by
  intro session
  exact ⟨[], by simp [runIn_throw]⟩

theorem inspects_tell (notice : Notice) :
    Inspects (Workspace.tell notice) fun _ => .ok () := by
  intro session
  exact ⟨[notice], rfl⟩

theorem inspects_readFile (path : Path) :
    Inspects (Workspace.readFile path) fun tree => .ok (tree.read path) := by
  intro session
  refine ⟨[], ?_⟩
  rw [List.append_nil]
  rfl

theorem inspects_isDirectory (path : Path) :
    Inspects (Workspace.isDirectory path) fun tree => .ok (tree.isDirectory path) := by
  intro session
  refine ⟨[], ?_⟩
  rw [List.append_nil]
  rfl

theorem Inspects.bind {task : Task SessionM α} {next : α → Task SessionM β}
    {answer : FileTree → Except Failure α} {answer' : α → FileTree → Except Failure β}
    (inspects : task.Inspects answer) (inspects' : ∀ value, (next value).Inspects (answer' value)) :
    Task.Inspects (task >>= next) fun tree => (answer tree).bind (answer' · tree) := by
  intro session
  obtain ⟨notices, run⟩ := inspects session
  dsimp only
  cases result : answer session.tree with
  | error failure =>
      rw [result] at run
      exact ⟨notices, runIn_bind_of_error run⟩
  | ok value =>
      rw [result] at run
      obtain ⟨notices', run'⟩ :=
        inspects' value { session with notices := session.notices ++ notices }
      refine ⟨notices ++ notices', ?_⟩
      rw [runIn_bind_of_ok run, run', List.append_assoc]
      rfl

/-- A task whose value is known goes on with it. -/
theorem Inspects.andThen {task : Task SessionM α} {next : α → Task SessionM β} {value : α}
    {answer : FileTree → Except Failure β} (inspects : task.Inspects fun _ => .ok value)
    (inspects' : (next value).Inspects answer) : Task.Inspects (task >>= next) answer := by
  intro session
  obtain ⟨notices, run⟩ := inspects session
  obtain ⟨notices', run'⟩ := inspects' { session with notices := session.notices ++ notices }
  refine ⟨notices ++ notices', ?_⟩
  rw [runIn_bind_of_ok run, run', List.append_assoc]

theorem inspects_tellAll (notices : List Notice) : Inspects (tellAll notices) fun _ => .ok () := by
  induction notices with
  | nil => exact inspects_pure ()
  | cons notice later ih => exact (inspects_tell notice).andThen ih

theorem inspects_perform (failure : ε → Failure) (traced : Traced ε α) :
    Inspects (perform failure traced) fun _ => traced.result.mapError failure := by
  refine (inspects_tellAll traced.notices).andThen ?_
  cases traced.result with
  | error fault => exact inspects_throw (failure fault)
  | ok value => exact inspects_pure value

end Task

/-! ## Inputs -/

/-- What comes of reading a text file. -/
def Path.decode (path : Path) : Except AccessFault ByteArray → Except Failure String
  | .error fault =>
      .error (if fault = .system .noEntry then .missingFile path else .unreadable path fault)
  | .ok bytes =>
      match String.fromUTF8? bytes with
      | none => .error (.unreadable path .notText)
      | some text => .ok text

/-- The text of a file. -/
def FileTree.text (tree : FileTree) (path : Path) : Except Failure String :=
  path.decode (tree.read path)

/-- The descriptors in a file. -/
def FileTree.descriptors (tree : FileTree) (path : Path) : Except Failure Descriptors :=
  (tree.text path).bind fun text => (Descriptors.ofText text).mapError (.json path)

/-- The files of a project, read in their order. -/
def Project.sources (project : Project) (tree : FileTree) : Except Failure Sources :=
  (tree.text project.typesPath).bind fun types =>
    (tree.descriptors project.partsPath).bind fun parts =>
      (tree.text project.globalsPath).bind fun globals => .ok ⟨types, globals, parts⟩

/-- The definitions that a project has in a tree. -/
def Project.definitions (project : Project) (config : Config) (tree : FileTree) :
    Except Failure String :=
  (project.sources tree).bind fun sources => (sources.assemble config).mapError .assembly

/-- The part types that a descriptor file has in a tree. -/
def FileTree.declarations (tree : FileTree) (input : Path) (config : Config) :
    Except Failure String :=
  (tree.descriptors input).bind fun parts => (parts.standalone config).mapError .ofPart

theorem inspects_readText (path : Path) : Task.Inspects (readText path) (·.text path) := by
  refine (Task.inspects_tell _).andThen ?_
  refine (Task.inspects_readFile path).bind fun read =>
    (?_ : Task.Inspects _ fun _ => path.decode read)
  cases read with
  | error fault => exact Task.inspects_throw _
  | ok bytes =>
      dsimp only [Path.decode]
      cases String.fromUTF8? bytes with
      | none => exact Task.inspects_throw _
      | some text => exact Task.inspects_pure text

theorem inspects_readDescriptors (path : Path) :
    Task.Inspects (readDescriptors path) (·.descriptors path) := by
  refine Task.Inspects.bind (inspects_readText path) fun text => ?_
  cases Descriptors.ofText text with
  | error report => exact Task.inspects_throw _
  | ok parts => exact Task.inspects_pure parts

theorem Project.inspects_load (project : Project) :
    Task.Inspects project.load project.sources := by
  refine (Task.inspects_tell _).andThen ?_
  refine Task.Inspects.bind (inspects_readText _) fun types => ?_
  refine Task.Inspects.bind (inspects_readDescriptors _) fun parts => ?_
  exact Task.Inspects.bind (inspects_readText _) fun globals => Task.inspects_pure _

theorem Project.inspects_build (project : Project) (config : Config) :
    Task.Inspects (project.build config) (project.definitions config) :=
  project.inspects_load.bind fun sources =>
    Task.inspects_perform .assembly (sources.assembleTraced config)

theorem inspects_declarations (input : Path) (config : Config) :
    Task.Inspects
      (readDescriptors input >>= fun parts => perform .ofPart (parts.standaloneTraced config))
      (·.declarations input config) :=
  (inspects_readDescriptors input).bind fun parts =>
    Task.inspects_perform .ofPart (parts.standaloneTraced config)

end PartDefs
