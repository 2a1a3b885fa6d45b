import PartDefs.Proofs.Rewriting

/-!
# What a check foretells

A check leaves out the writing, and for a single file it leaves out the text, too.  None of the
steps that it leaves out can fail except at the output, so its verdict is that of the run.
-/

namespace PartDefs

variable {α β ε ε' : Type}

/-- A result of which only the failure matters. -/
def verdict (result : Except ε α) : Except ε Unit :=
  result.bind fun _ => .ok ()

/-- A verdict tells how a run ends: if it is good the run ends well or fails at the output, and else
the run fails in the same way. -/
structure Foretells (told : Except Failure Unit) (outcome : Except Failure Path) : Prop where
  ok_iff : told = .ok () ↔ (∃ path, outcome = .ok path) ∨
    ∃ failure, outcome = .error failure ∧ failure.isOutputProblem = true
  failed : ∀ failure, told = .error failure → outcome = .error failure

namespace Foretells

theorem of_failure {failure : Failure} (early : failure.isOutputProblem = false) :
    Foretells (.error failure) (.error failure) where
  ok_iff := by simp [early]
  failed := by
    rintro other ⟨⟩
    rfl

theorem of_success (path : Path) : Foretells (.ok ()) (.ok path) where
  ok_iff := by simp
  failed := by
    rintro failure ⟨⟩

theorem of_outputProblem {failure : Failure} (late : failure.isOutputProblem = true) :
    Foretells (.ok ()) (.error failure) where
  ok_iff := by simp [late]
  failed := by
    rintro other ⟨⟩

end Foretells

/-! ## Verdicts -/

theorem verdict_map (f : α → β) (result : Except ε α) :
    verdict (result.map f) = verdict result := by
  cases result <;> rfl

theorem verdict_mapError (f : ε → ε') (result : Except ε α) :
    verdict (result.mapError f) = (verdict result).mapError f := by
  cases result <;> rfl

theorem verdict_bind (result : Except ε α) (next : α → Except ε β) :
    verdict (result.bind next) = result.bind fun value => verdict (next value) := by
  cases result <;> rfl

/-- Declarations can be written for all parts that can be resolved. -/
theorem Descriptors.verdict_standalone (all : Descriptors) (config : Config) :
    verdict (all.standalone config) = verdict all.resolve := by
  rw [standalone_eq, verdict_map, generate_eq, verdict_map]

theorem Sources.assemble_eq (sources : Sources) (config : Config) :
    sources.assemble config =
      ((sources.parts.generate config).mapError AssemblyFault.part).bind
        (sources.definitions config) := by
  rw [assemble, assembleTraced, Traced.result_bind]
  rfl

/-- How the definitions are to look has no influence on whether there are any. -/
theorem Sources.verdict_assemble (sources : Sources) (config config' : Config) :
    verdict (sources.assemble config) = verdict (sources.assemble config') := by
  rw [assemble_eq, assemble_eq, Descriptors.generate_eq, Descriptors.generate_eq]
  cases sources.parts.resolve with
  | error fault => simp only [Except.map, Except.mapError, Except.bind]
  | ok resolution =>
      have same (config : Config) :
          (resolution.declare config).defaultPart = resolution.defaultPart := rfl
      simp only [Except.map, Except.mapError, Except.bind, definitions, same]
      cases resolution.defaultPart with
      | none => rfl
      | some defaultPart => simp only [verdict, Except.bind]

theorem Project.verdict_definitions (project : Project) (config config' : Config)
    (tree : FileTree) :
    verdict (project.definitions config tree) = verdict (project.definitions config' tree) := by
  simp only [definitions, verdict_bind, verdict_mapError, Sources.verdict_assemble _ config config']

theorem FileTree.verdict_declarations (tree : FileTree) (input : Path) (config : Config) :
    verdict (tree.declarations input config) =
      (tree.descriptors input).bind fun parts => verdict (parts.resolve.mapError .ofPart) := by
  simp only [declarations, verdict_bind, verdict_mapError, Descriptors.verdict_standalone]

/-! ## Failures before the output -/

/-- A result that is no failure at the output. -/
def BeforeOutput (result : Except Failure α) : Prop :=
  ∀ failure, result = .error failure → failure.isOutputProblem = false

namespace BeforeOutput

theorem ok (value : α) : BeforeOutput (.ok value) := by
  rintro _ ⟨⟩

theorem mapError {result : Except ε α} {f : ε → Failure}
    (early : ∀ fault, (f fault).isOutputProblem = false) : BeforeOutput (result.mapError f) := by
  intro failure failed
  cases result with
  | error fault => exact Except.error.inj failed ▸ early fault
  | ok value => cases failed

theorem bind {result : Except Failure α} {next : α → Except Failure β}
    (before : BeforeOutput result) (before' : ∀ value, BeforeOutput (next value)) :
    BeforeOutput (result.bind next) := by
  cases result with
  | error failure =>
      rintro _ ⟨⟩
      exact before failure rfl
  | ok value => exact before' value

theorem text (tree : FileTree) (path : Path) : BeforeOutput (tree.text path) := by
  intro failure failed
  rw [FileTree.text] at failed
  cases result : tree.read path with
  | error fault =>
      rw [result, Path.decode] at failed
      obtain rfl := Except.error.inj failed
      split <;> rfl
  | ok bytes =>
      rw [result, Path.decode] at failed
      split at failed
      · obtain rfl := Except.error.inj failed
        rfl
      · cases failed

theorem descriptors (tree : FileTree) (path : Path) : BeforeOutput (tree.descriptors path) :=
  (text tree path).bind fun _ => mapError fun _ => rfl

theorem declarations (tree : FileTree) (input : Path) (config : Config) :
    BeforeOutput (tree.declarations input config) :=
  (descriptors tree input).bind fun _ => mapError fun _ => rfl

theorem definitions (project : Project) (config : Config) (tree : FileTree) :
    BeforeOutput (project.definitions config tree) :=
  ((text _ _).bind fun _ => (descriptors _ _).bind fun _ => (text _ _).bind fun _ => ok _).bind
    fun _ => mapError fun _ => rfl

end BeforeOutput

/-! ## Checks -/

/-- What a check finds in a tree: a project has definitions, any other path names a descriptor file
whose parts can be resolved. -/
def FileTree.check (tree : FileTree) (path : Path) : Except Failure Unit :=
  if tree.isDirectory path then verdict (Project.definitions ⟨path⟩ {} tree)
  else (tree.descriptors path).bind fun parts => verdict (parts.resolve.mapError .ofPart)

theorem inspects_check (path : Path) : Task.Inspects (check path) (·.check path) := by
  refine (Task.inspects_isDirectory path).bind (show ∀ there : Bool, Task.Inspects _ fun tree =>
    if there then verdict (Project.definitions ⟨path⟩ {} tree)
    else (tree.descriptors path).bind fun parts =>
      verdict (parts.resolve.mapError .ofPart) from fun there => ?_)
  cases there with
  | true => exact (Project.inspects_build ⟨path⟩ {}).bind fun _ => Task.inspects_pure ()
  | false =>
      exact (inspects_readDescriptors path).bind fun parts =>
        (Task.inspects_perform .ofPart parts.resolveTraced).bind fun resolution =>
          Task.inspects_tell (.validDescriptors resolution.parts.size)

/-- The verdict on a text foretells the run that writes it. -/
theorem foretells_writeTo {render : Task SessionM String}
    {answer : FileTree → Except Failure String} (inspects : render.Inspects answer) (path : Path)
    (session : Session) (early : BeforeOutput (answer session.tree)) :
    Foretells (verdict (answer session.tree)) ((render.writeTo path).runIn session).1 := by
  have writes := Task.writesTo_runIn inspects path session
  generalize answer session.tree = made at early writes
  generalize (render.writeTo path).runIn session = ending at writes
  cases writes with
  | unmade _ => exact .of_failure (early _ rfl)
  | unwritten late _ _ => exact .of_outputProblem late
  | written _ _ => exact .of_success path

/-- A check changes nothing and foretells how the definitions of a project, or the part types of a
descriptor file, will be made. -/
theorem check_foretells (session : Session) (path : Path) (config : Config)
    (output : Option Path) :
    ((check path).runIn session).2.tree = session.tree ∧
      Foretells ((check path).runIn session).1
        (if session.tree.isDirectory path then
          (Task.runIn (Project.buildAndWrite ⟨path⟩ config output) session).1
        else (Task.runIn (generateFile path output config) session).1) := by
  obtain ⟨notices, checked⟩ := inspects_check path session
  rw [checked]
  refine ⟨rfl, ?_⟩
  dsimp only
  rw [FileTree.check]
  split
  · rw [Project.buildAndWrite_eq, Project.verdict_definitions _ {} config]
    exact foretells_writeTo (Project.inspects_build ⟨path⟩ config) _ session (.definitions _ _ _)
  · rw [generateFile_eq, ← FileTree.verdict_declarations _ _ config]
    exact foretells_writeTo (inspects_declarations path config) _ session (.declarations _ _ _)

end PartDefs
