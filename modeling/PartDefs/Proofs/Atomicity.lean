import PartDefs.Proofs.Writing

/-!
# Generation is atomic

A run that makes definitions leaves the tree as it was, unless it comes to writing them.  Then it
makes directories that the path of the output needs, and if all goes well the file, and it touches
nothing else.
-/

namespace PartDefs

/-- What a run that makes a text and writes it to a path may leave of a session, by how it ends. -/
structure Atomic (session : Session) (text : Except Failure String) (path : Path)
    (outcome : Except Failure Path × Session) : Prop where
  /-- If there is no text, the run fails for the same reason. -/
  failed : ∀ failure, text = .error failure → outcome.1 = .error failure
  /-- Failures that do not concern the output are of this kind and leave the tree as it was. -/
  refused : ∀ failure, outcome.1 = .error failure → failure.isOutputProblem = false →
    text = .error failure ∧ outcome.2.tree = session.tree
  /-- If the output cannot be written, there are at most new directories, without files. -/
  interrupted : ∀ failure, outcome.1 = .error failure → failure.isOutputProblem = true →
    session.tree.Grows path.directories [] outcome.2.tree ∧
      ∀ place below content, session.tree.node? place = none → place <:+ below →
        outcome.2.tree.node? below ≠ some (.file content)
  /-- If the run succeeds, the text is in its file, and else there are only new directories. -/
  written : ∀ target, outcome.1 = .ok target → target = path ∧ ∃ content place,
    text = .ok content ∧ outcome.2.tree.find path = .ok (place, .file content.toUTF8) ∧
      session.tree.Grows path.directories [place] outcome.2.tree
  /-- A text for which there is a place is written. -/
  ready : ∀ content place, text = .ok content → session.tree.hasDirectory path = true →
    session.tree.target path = .ok place → outcome.1 = .ok path

namespace Atomic

variable {session later : Session} {path : Path} {text : String} {failure : Failure}

/-- A run without a text ends before anything is written. -/
theorem refusal (tree : session.tree.IsTree) (same : later.tree = session.tree) :
    Atomic session (.error failure) path (.error failure, later) where
  failed := by
    rintro other ⟨⟩
    rfl
  refused := by
    rintro other ⟨⟩ -
    exact ⟨rfl, same⟩
  interrupted := by
    rintro other ⟨⟩ -
    have grows : session.tree.Grows path.directories [] later.tree := same ▸ .refl _ _
    exact ⟨grows, grows.vacant tree⟩
  written := by
    rintro target ⟨⟩
  ready := by
    rintro content place ⟨⟩

/-- A run stops within the writing only where there is no place for the text. -/
theorem interruption (tree : session.tree.IsTree) (problem : failure.isOutputProblem = true)
    (grows : session.tree.Grows path.directories [] later.tree)
    (blocked : ∀ place, session.tree.hasDirectory path = true →
      session.tree.target path ≠ .ok place) :
    Atomic session (.ok text) path (.error failure, later) where
  failed := by
    rintro other ⟨⟩
  refused := by
    rintro other ⟨⟩ early
    rw [problem] at early
    cases early
  interrupted := by
    rintro other ⟨⟩ -
    exact ⟨grows, grows.vacant tree⟩
  written := by
    rintro target ⟨⟩
  ready := by
    intro content place _ there chosen
    exact absurd chosen (blocked place there)

/-- A run that ends well has written its text. -/
theorem completion {place : FileLocation}
    (found : later.tree.find path = .ok (place, .file text.toUTF8))
    (grows : session.tree.Grows path.directories [place] later.tree) :
    Atomic session (.ok text) path (.ok path, later) where
  failed := by
    rintro failure ⟨⟩
  refused := by
    rintro failure ⟨⟩
  interrupted := by
    rintro failure ⟨⟩
  written := by
    rintro target ⟨⟩
    exact ⟨rfl, text, place, rfl, found, grows⟩
  ready := fun _ _ _ _ _ => rfl

end Atomic

/-- To compute a text without touching the tree and then to write it is atomic. -/
theorem atomic_writeTo {render : Task SessionM String} {answer : FileTree → Except Failure String}
    (inspects : render.Inspects answer) (path : Path) (session : Session)
    (tree : session.tree.IsTree) :
    Atomic session (answer session.tree) path ((render.writeTo path).runIn session) := by
  have writes := Task.writesTo_runIn inspects path session
  generalize answer session.tree = text at writes
  generalize (render.writeTo path).runIn session = ending at writes
  cases writes with
  | unmade same => exact .refusal tree same
  | unwritten late grows blocked => exact .interruption tree late grows blocked
  | written found grows => exact .completion found grows

/-- Definitions of projects and part types of descriptor files are made atomically. -/
theorem atomic_generation (session : Session) (tree : session.tree.IsTree) (config : Config)
    (output : Option Path) :
    (∀ project : Project,
      Atomic session ((project.build config : Task SessionM String).runIn session).1
        (output.getD project.outputPath)
        (Task.runIn (project.buildAndWrite config output) session)) ∧
    ∀ input : Path,
      Atomic session
        (((readDescriptors input : Task SessionM Descriptors).runIn session).1.bind fun parts =>
          (parts.standalone config).mapError .ofPart)
        (output.getD (declarationsPath input))
        (Task.runIn (generateFile input output config) session) := by
  constructor
  · intro project
    obtain ⟨notices, built⟩ := project.inspects_build config session
    rw [built, project.buildAndWrite_eq]
    exact atomic_writeTo (project.inspects_build config) _ session tree
  · intro input
    obtain ⟨notices, read⟩ := inspects_readDescriptors input session
    rw [read, generateFile_eq]
    exact atomic_writeTo (inspects_declarations input config) _ session tree

/-- A session in which there is one project, with a part but without a place for the output. -/
def siteSession : Session where
  tree.nodes := .ofList
    [(["site"], .directory),
      (["types.d.lua", "site"], .file "type PortLike = string\n".toUTF8),
      (["globals.d.lua", "site"], .file "declare clock: number\n".toUTF8),
      (["parts.json", "site"], .file
        "\x7b\"Lamp\": \x7b\"default\": true, \"events\": \x7b\"Ready\": []\x7d\x7d\x7d".toUTF8)]
  tree.home := []
  notices := []

/-- The output of the project is written into a new directory. -/
theorem siteSession_atomic :
    siteSession.tree.IsTree ∧
      (Task.runIn (Project.buildAndWrite ⟨⟨"site"⟩⟩ {} none) siteSession).1 =
        .ok ⟨"site/build/pilot.d.lua"⟩ ∧
      Atomic siteSession (Task.runIn (Project.build ⟨⟨"site"⟩⟩ {}) siteSession).1
        ⟨"site/build/pilot.d.lua"⟩
        (Task.runIn (Project.buildAndWrite ⟨⟨"site"⟩⟩ {} none) siteSession) := by
  have tree : siteSession.tree.IsTree := FileTree.isTree_of_keys (by decide +kernel)
  have path : Project.outputPath ⟨⟨"site"⟩⟩ = ⟨"site/build/pilot.d.lua"⟩ := by decide +kernel
  refine ⟨tree, by decide +kernel, ?_⟩
  rw [← path]
  exact (atomic_generation siteSession tree {} none).1 ⟨⟨"site"⟩⟩

end PartDefs
