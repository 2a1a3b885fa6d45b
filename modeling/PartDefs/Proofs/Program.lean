import PartDefs.Program
import PartDefs.Proofs.Atomicity
import PartDefs.Proofs.Verdict

/-!
# Whole runs

How a run of the program can end.  A call that is refused and a command that fails before the output
leave all files as they are, and so does every check.  A command that fails at the output leaves at
most new directories, and one that succeeds has written its text and nothing else.
-/

namespace PartDefs

open CommandLine

namespace CommandLine.Invocation

/-- What a call asks of a tree: a text for a file, or for a check nothing but success. -/
def answer (invocation : Invocation) (tree : FileTree) : Except Failure (Option (Path × String)) :=
  let path : Path := ⟨invocation.path⟩
  let output := invocation.output.map Path.mk
  match invocation.command with
  | .defs =>
      (Project.definitions ⟨path⟩ {} tree).map fun text =>
        some (output.getD (Project.outputPath ⟨path⟩), text)
  | .parts =>
      (tree.declarations path {}).map fun text => some (output.getD (declarationsPath path), text)
  | .check => (tree.check path).map fun _ => none

/-- The remarks on the log's filter and the lines of some notices. -/
def logText (invocation : Invocation) (surroundings : Surroundings) (notices : List Notice) :
    String :=
  let settings := invocation.logSettings surroundings
  settings.filter.remarks ++ String.join (notices.map settings.shown)

/-- How the command of a call can end that finds a tree. -/
inductive Performs (invocation : Invocation) (tree : FileTree) :
    Except Failure (Option Path) × Session → Prop where
  | failed {failure : Failure} {later : Session} :
      invocation.answer tree = .error failure →
      later.tree = tree →
      Performs invocation tree (.error failure, later)
  | checked {later : Session} :
      invocation.answer tree = .ok none →
      later.tree = tree →
      Performs invocation tree (.ok none, later)
  | unwritten {path : Path} {text : String} {failure : Failure} {later : Session} :
      invocation.answer tree = .ok (some (path, text)) →
      failure.isOutputProblem = true →
      tree.Grows path.directories [] later.tree →
      Performs invocation tree (.error failure, later)
  | written {path : Path} {text : String} {place : FileLocation} {later : Session} :
      invocation.answer tree = .ok (some (path, text)) →
      later.tree.find path = .ok (place, .file text.toUTF8) →
      tree.Grows path.directories [place] later.tree →
      Performs invocation tree (.ok (some path), later)

variable {invocation : Invocation} {tree : FileTree}

theorem performs_of_writesTo {path : Path} {text : Except Failure String}
    {ending : Except Failure Path × Session} (writes : Task.WritesTo path tree text ending)
    (asks : invocation.answer tree = text.map fun text => some (path, text)) :
    invocation.Performs tree (ending.1.map some, ending.2) := by
  cases writes with
  | unmade same => exact .failed asks same
  | unwritten late grows _ => exact .unwritten asks late grows
  | written found grows => exact .written asks found grows

/-- The command of a call ends in one of these ways. -/
theorem performs_runIn (invocation : Invocation) (session : Session) :
    invocation.Performs session.tree (Task.runIn invocation.perform session) := by
  let path : Path := ⟨invocation.path⟩
  let output := invocation.output.map Path.mk
  rw [perform]
  cases command : invocation.command with
  | defs =>
      have writes := Task.writesTo_runIn (Project.inspects_build ⟨path⟩ {})
        (output.getD (Project.outputPath ⟨path⟩)) session
      rw [← Project.buildAndWrite_eq] at writes
      dsimp only
      rw [Task.runIn_map]
      exact performs_of_writesTo writes (by simp only [answer, command, path, output])
  | parts =>
      have writes := Task.writesTo_runIn (inspects_declarations path {})
        (output.getD (declarationsPath path)) session
      rw [← generateFile_eq] at writes
      dsimp only
      rw [Task.runIn_map]
      exact performs_of_writesTo writes (by simp only [answer, command, path, output])
  | check =>
      obtain ⟨notices, checked⟩ := (inspects_check path).bind
        (fun _ => Task.inspects_pure (none : Option Path)) session
      dsimp only at checked ⊢
      rw [checked]
      have asks : invocation.answer session.tree = (session.tree.check path).map fun _ => none := by
        simp only [answer, command, path]
      cases verdict : session.tree.check path with
      | error failure =>
          rw [verdict] at asks
          exact .failed asks rfl
      | ok _ =>
          rw [verdict] at asks
          exact .checked asks rfl

end CommandLine.Invocation

namespace Program

variable {surroundings : Surroundings} {tree : FileTree} {arguments : List String}
  {invocation : Invocation}

/-- What a run shows and leaves when its command has ended. -/
def shown (surroundings : Surroundings) (invocation : Invocation)
    (ending : Except Failure (Option Path) × Session) : Outcome × FileTree :=
  let outcome := Outcome.ofResult (invocation.colors surroundings) ending.1
  ({ outcome with stderr := invocation.logText surroundings ending.2.notices ++ outcome.stderr },
    ending.2.tree)

theorem run_eq_shown (parsed : parse arguments = .ok invocation) :
    run arguments surroundings tree =
      shown surroundings invocation (invocation.perform.runIn ⟨tree, []⟩) := by
  rw [run, parsed]
  rfl

/-- A call that is refused leaves the tree as it is. -/
theorem run_of_refusal {refusal : Refusal} (refused : parse arguments = .error refusal) :
    (run arguments surroundings tree).1.status = refusal.status ∧
      (run arguments surroundings tree).2 = tree := by
  rw [run, refused]
  refine ⟨?_, rfl⟩
  by_cases asked : refusal.status = 0 <;> simp [Outcome.ofRefusal, asked]

/-- A run whose command fails ends with status 1 and reports the failure behind its log.  It leaves
the tree as it is unless the command fails at the output, and then there are at most new
directories. -/
theorem run_of_failure {failure : Failure} (parsed : parse arguments = .ok invocation)
    (failed : (invocation.perform.runIn ⟨tree, []⟩).1 = .error failure) :
    (∃ notices, (run arguments surroundings tree).1 =
        ⟨1, "", invocation.logText surroundings notices ++
          failure.report (invocation.colors surroundings)⟩) ∧
      (failure.isOutputProblem = false → (run arguments surroundings tree).2 = tree) ∧
      ∃ paths, tree.Grows paths [] (run arguments surroundings tree).2 := by
  have performs := invocation.performs_runIn ⟨tree, []⟩
  rw [run_eq_shown parsed]
  generalize invocation.perform.runIn ⟨tree, []⟩ = ending at performs failed
  cases performs with
  | failed _ same =>
      obtain rfl := Except.error.inj failed
      rw [shown, same]
      exact ⟨⟨_, rfl⟩, fun _ => rfl, [], .refl _ _⟩
  | checked _ _ => cases failed
  | unwritten _ late grows =>
      obtain rfl := Except.error.inj failed
      exact ⟨⟨_, rfl⟩, fun early => absurd late (by simp [early]), _, grows⟩
  | written _ _ _ => cases failed

/-- A run whose command succeeds ends with status 0.  A check leaves the tree as it is, and the
other commands have written what was asked for into the file they tell of, and nothing else. -/
theorem run_of_success {made : Option Path} (parsed : parse arguments = .ok invocation)
    (success : (invocation.perform.runIn ⟨tree, []⟩).1 = .ok made) :
    (∃ notices, (run arguments surroundings tree).1 =
        ⟨0, made.elim "" fun path => path.text ++ " created successfully\n",
          invocation.logText surroundings notices⟩) ∧
      (made = none → (run arguments surroundings tree).2 = tree) ∧
      ∀ path ∈ made, ∃ text place, invocation.answer tree = .ok (some (path, text)) ∧
        (run arguments surroundings tree).2.find path = .ok (place, .file text.toUTF8) ∧
        tree.Grows path.directories [place] (run arguments surroundings tree).2 := by
  have performs := invocation.performs_runIn ⟨tree, []⟩
  rw [run_eq_shown parsed]
  generalize invocation.perform.runIn ⟨tree, []⟩ = ending at performs success
  cases performs with
  | failed _ _ => cases success
  | @checked later _ same =>
      obtain rfl := Except.ok.inj success
      rw [shown, Outcome.ofResult, String.append_empty]
      exact ⟨⟨_, rfl⟩, fun _ => same, nofun⟩
  | unwritten _ _ _ => cases success
  | @written path text place later asked found grows =>
      obtain rfl := Except.ok.inj success
      rw [shown, Outcome.ofResult, String.append_empty]
      refine ⟨⟨_, rfl⟩, nofun, ?_⟩
      rintro _ ⟨⟩
      exact ⟨text, place, asked, found, grows⟩

example : (run ["parts", "site/parts.json"] ⟨none, true, false, false⟩ siteSession.tree).1 =
    ⟨0, "site/parts.d.lua created successfully\n", ""⟩ := by
  decide +kernel

/-- A check never changes the tree. -/
theorem run_check (parsed : parse arguments = .ok invocation)
    (checks : invocation.command = .check) : (run arguments surroundings tree).2 = tree := by
  have performs := invocation.performs_runIn ⟨tree, []⟩
  have verdict : ∀ path text, invocation.answer tree ≠ .ok (some (path, text)) := by
    intro path text asks
    simp only [Invocation.answer, checks] at asks
    cases told : tree.check ⟨invocation.path⟩ <;> rw [told] at asks <;> cases asks
  rw [run_eq_shown parsed]
  generalize invocation.perform.runIn ⟨tree, []⟩ = ending at performs
  cases performs with
  | failed _ same => exact same
  | checked _ same => exact same
  | unwritten asks _ _ => exact absurd asks (verdict _ _)
  | written asks _ _ => exact absurd asks (verdict _ _)

/-- Whatever is asked for, a run that does not end with status 0 leaves every file and every
directory as it is. -/
theorem run_spares {place : FileLocation} {node : FileNode}
    (unsuccessful : (run arguments surroundings tree).1.status ≠ 0)
    (there : tree.node? place = some node) :
    (run arguments surroundings tree).2.node? place = some node := by
  cases parsed : parse arguments with
  | error refusal => rwa [(run_of_refusal parsed).2]
  | ok invocation =>
      cases ended : (invocation.perform.runIn ⟨tree, []⟩).1 with
      | error failure =>
          obtain ⟨-, -, paths, grows⟩ := @run_of_failure surroundings _ _ _ _ parsed ended
          exact grows.kept place node List.not_mem_nil there
      | ok made =>
          obtain ⟨⟨notices, outcome⟩, -⟩ := @run_of_success surroundings _ _ _ _ parsed ended
          exact absurd (congrArg Outcome.status outcome) unsuccessful

end Program
end PartDefs
