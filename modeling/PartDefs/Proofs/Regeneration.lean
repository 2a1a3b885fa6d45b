import PartDefs.Proofs.Atomicity
import PartDefs.Proofs.Rewriting

/-!
# Making definitions again

A run that has ended well can be repeated: it finds the same inputs, makes the same text and writes
it over itself, so that nothing changes.  Only an output that is given may stand in the way, by
being one of the inputs.  The places that are taken without one have names of their own.
-/

namespace PartDefs

variable {α β : Type} {inputs : List Path}

/-! ## Results that depend on files -/

/-- A result that takes some paths to lead to files, and that depends on these files alone. -/
structure DependsOn (inputs : List Path) (answer : FileTree → Except Failure α) : Prop where
  present : ∀ tree value, answer tree = .ok value →
    ∀ input ∈ inputs, ∃ place content, tree.find input = .ok (place, .file content)
  congr : ∀ tree tree', (∀ input ∈ inputs, tree'.read input = tree.read input) →
    answer tree' = answer tree

namespace DependsOn

theorem const (answer : Except Failure α) : DependsOn [] fun _ => answer where
  present := by
    rintro tree value - input ⟨⟩
  congr := fun _ _ _ => rfl

theorem bind {inputs' : List Path} {answer : FileTree → Except Failure α}
    {answer' : α → FileTree → Except Failure β} (depends : DependsOn inputs answer)
    (depends' : ∀ value, DependsOn inputs' (answer' value)) :
    DependsOn (inputs ++ inputs') fun tree => (answer tree).bind (answer' · tree) where
  present := by
    intro tree value success input listed
    cases first : answer tree with
    | error failure => simp [first, Except.bind] at success
    | ok middle =>
        rw [first] at success
        rcases List.mem_append.1 listed with member | member
        · exact depends.present tree middle first input member
        · exact (depends' middle).present tree value success input member
  congr := by
    intro tree tree' same
    rw [depends.congr tree tree' fun input member => same input (List.mem_append_left _ member)]
    cases answer tree with
    | error failure => rfl
    | ok middle =>
        exact (depends' middle).congr tree tree' fun input member =>
          same input (List.mem_append_right _ member)

theorem text (path : Path) : DependsOn [path] (·.text path) where
  present := by
    intro tree value success input listed
    rw [List.mem_singleton.1 listed]
    rw [FileTree.text] at success
    cases result : tree.read path with
    | error fault => simp [result, Path.decode] at success
    | ok content =>
        obtain ⟨place, found⟩ := FileTree.read_eq_ok_iff.1 result
        exact ⟨place, content, found⟩
  congr := by
    intro tree tree' same
    rw [FileTree.text, FileTree.text, same path (List.mem_singleton_self path)]

theorem descriptors (path : Path) : DependsOn [path] (·.descriptors path) :=
  (text path).bind fun _ => const _

theorem declarations (input : Path) (config : Config) :
    DependsOn [input] (·.declarations input config) :=
  (descriptors input).bind fun _ => const _

end DependsOn

/-- The files that the definitions of a project are made from. -/
def Project.inputPaths (project : Project) : List Path :=
  [project.typesPath, project.partsPath, project.globalsPath]

theorem Project.dependsOn_definitions (project : Project) (config : Config) :
    DependsOn project.inputPaths (project.definitions config) :=
  ((DependsOn.text _).bind fun _ => (DependsOn.descriptors _).bind fun _ =>
    (DependsOn.text _).bind fun _ => DependsOn.const _).bind fun _ => DependsOn.const _

/-! ## Names of files -/

/-- What two paths lead to has different names, provided that the second path can lead to a file. -/
def Path.NamesApart (path other : Path) : Prop :=
  ∀ name, path.steps.getLast? = some (.down name) → other.asksForDirectory = false →
    other.steps.getLast? ≠ some (.down name)

theorem Path.namesApart_join (path other : Path) {name name' : String} (named : name ≠ "")
    (named' : name' ≠ "") (plain : '/' ∉ name.toList) (plain' : '/' ∉ name'.toList)
    (apart : name ≠ name') : (path.join name).NamesApart (other.join name') := by
  obtain ⟨_, ends⟩ := path.endsIn_join named plain
  obtain ⟨_, ends'⟩ := other.endsIn_join named' plain'
  intro common last _ last'
  rw [ends.getLast?_steps, Option.some_inj, ofComponent_eq_down_iff, String.ofList_toList] at last
  rw [ends'.getLast?_steps, Option.some_inj, ofComponent_eq_down_iff, String.ofList_toList] at last'
  exact apart (last.1.trans last'.1.symm)

/-- The output of a project has another name than its inputs. -/
theorem Project.namesApart_outputPath (project : Project) :
    ∀ input ∈ project.inputPaths, project.outputPath.NamesApart input := by
  intro input listed
  simp only [inputPaths, List.mem_cons, List.not_mem_nil, or_false] at listed
  rcases listed with rfl | rfl | rfl <;>
    exact Path.namesApart_join _ _ (by decide) (by decide) (by decide) (by decide) (by decide)

/-- Part types are written beside a descriptor file under another name. -/
theorem namesApart_declarationsPath (input : Path) : (declarationsPath input).NamesApart input :=
  fun _ last plain last' =>
    Path.ne_of_getLast?_steps_withExtension last' plain (by decide) (by decide) last rfl

/-! ## What is found after writing -/

/-- Two paths lead to the same place. -/
def FileTree.Meet (tree : FileTree) (path other : Path) : Prop :=
  ∃ place node, tree.find path = .ok (place, node) ∧ tree.find other = .ok (place, node)

namespace FileTree.Written

variable {before after : FileTree} {path input : Path} {text : String}
  {place source : FileLocation} {content : ByteArray}

theorem ne_of_namesApart (written : before.Written path text place after) (inside : before.IsTree)
    (apart : path.NamesApart input) (found : before.find input = .ok (source, .file content)) :
    source ≠ place := by
  obtain ⟨name, _, last, rfl⟩ := exists_down_of_find_file inside found
  obtain ⟨_, other, searched, -, -, -, rfl⟩ := target_eq_ok_iff.1 written.chosen
  have last' := (findLast_eq_ok_iff.1 searched).2.2.2
  have plain := (find_eq_ok_iff.1 found).2.2.2.resolve_left (by simp)
  intro same
  obtain ⟨rfl, -⟩ := List.cons.inj same
  exact apart name last' plain last

theorem ne_of_not_meet (written : before.Written path text place after)
    (clear : ¬after.Meet path input) (found : before.find input = .ok (source, .file content)) :
    source ≠ place := by
  rintro rfl
  have there := (find_eq_ok_iff.1 written.found).2.2.1
  exact clear ⟨source, _, written.found, written.persists.find_of_find_file found there⟩

/-- A file in another place is found as before. -/
theorem find_of_ne (written : before.Written path text place after) (other : source ≠ place)
    (found : before.find input = .ok (source, .file content)) :
    after.find input = .ok (source, .file content) :=
  written.persists.find_of_find_file found
    (written.kept source _ other (find_eq_ok_iff.1 found).2.2.1)

end FileTree.Written

/-! ## Repeating a run -/

/-- What is said of a run that takes some inputs and may be given an output. -/
structure Repeatable (inputs : List Path) (output : Option Path) (run : Task SessionM Path)
    (session : Session) : Prop where
  /-- After a run that ends well, unless the given output is one of the inputs, the next run does
  the same and changes nothing. -/
  again : ∀ path later, run.runIn session = (.ok path, later) →
    (∀ given ∈ output, ∀ input ∈ inputs, ¬later.tree.Meet given input) →
    ∀ next : Session, next.tree = later.tree →
      ∃ final, run.runIn next = (.ok path, final) ∧ final.tree = next.tree
  /-- Where no output is given, all inputs stay what they are, and the output is none of them. -/
  spared : output = none → ∀ path later, run.runIn session = (.ok path, later) →
    ∃ place content, later.tree.find path = .ok (place, .file content) ∧
      ∀ input ∈ inputs, ∃ source text, session.tree.find input = .ok (source, .file text) ∧
        later.tree.find input = .ok (source, .file text) ∧ source ≠ place

theorem repeatable_writeTo {render : Task SessionM String}
    {answer : FileTree → Except Failure String} (inspects : render.Inspects answer)
    (depends : DependsOn inputs answer) (session : Session) (inside : session.tree.IsTree)
    (output : Option Path) {path : Path} (apart : ∀ input ∈ inputs, path.NamesApart input) :
    Repeatable inputs output (render.writeTo (output.getD path)) session where
  again := by
    intro target later run clear next same
    obtain ⟨rfl, text, place, computed, written⟩ := exists_written_of_runIn_writeTo inspects run
    rw [← same] at written clear
    refine written.runIn_writeTo inspects (Eq.trans ?_ computed)
    refine depends.congr session.tree next.tree fun input listed => ?_
    obtain ⟨source, content, found⟩ := depends.present session.tree text computed input listed
    have other : source ≠ place := by
      cases output with
      | none => exact written.ne_of_namesApart inside (apart input listed) found
      | some given => exact written.ne_of_not_meet (clear given rfl input listed) found
    rw [FileTree.read_eq_ok_iff.2 ⟨source, found⟩,
      FileTree.read_eq_ok_iff.2 ⟨source, written.find_of_ne other found⟩]
  spared := by
    rintro rfl target later run
    obtain ⟨rfl, text, place, computed, written⟩ := exists_written_of_runIn_writeTo inspects run
    refine ⟨place, text.toUTF8, written.found, fun input listed => ?_⟩
    obtain ⟨source, content, found⟩ := depends.present session.tree text computed input listed
    have other := written.ne_of_namesApart inside (apart input listed) found
    exact ⟨source, content, found, written.find_of_ne other found, other⟩

/-- Definitions of projects and part types of descriptor files can be made again without a change,
and unless an output is given they are kept apart from what they are made from. -/
theorem repeatable_generation (session : Session) (inside : session.tree.IsTree) (config : Config)
    (output : Option Path) :
    (∀ project : Project,
      Repeatable project.inputPaths output (project.buildAndWrite config output) session) ∧
    ∀ input : Path, Repeatable [input] output (generateFile input output config) session := by
  constructor
  · intro project
    rw [project.buildAndWrite_eq]
    exact repeatable_writeTo (project.inspects_build config)
      (project.dependsOn_definitions config) session inside output project.namesApart_outputPath
  · intro input
    rw [generateFile_eq]
    refine repeatable_writeTo (inspects_declarations input config)
      (DependsOn.declarations input config) session inside output ?_
    simpa using namesApart_declarationsPath input

/-- Beside the descriptor file of a project its part types are written, which leaves the file as it
is. -/
theorem siteSession_repeatable :
    siteSession.tree.IsTree ∧
      (Task.runIn (generateFile ⟨"site/parts.json"⟩ none {}) siteSession).1 =
        .ok ⟨"site/parts.d.lua"⟩ ∧
      Repeatable [⟨"site/parts.json"⟩] none (generateFile ⟨"site/parts.json"⟩ none {})
        siteSession ∧
      Repeatable (Project.inputPaths ⟨⟨"site"⟩⟩) none (Project.buildAndWrite ⟨⟨"site"⟩⟩ {} none)
        siteSession := by
  have inside : siteSession.tree.IsTree := FileTree.isTree_of_keys (by decide +kernel)
  obtain ⟨projects, files⟩ := repeatable_generation siteSession inside {} none
  exact ⟨inside, by decide +kernel, files _, projects _⟩

end PartDefs
