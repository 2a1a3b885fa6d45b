import PartDefs.Descriptor.Reader
import PartDefs.Failure

/-!
# Projects and files

Making definitions from the files of a workspace.  All inputs are read, and the whole text is made,
before anything is written; the directories of the output are made when they are missing.
-/

namespace PartDefs

variable {m : Type → Type} [Monad m] [Workspace m]

/-- A computation on a workspace that may fail. -/
abbrev Task (m : Type → Type) (α : Type) := ExceptT Failure m α

instance {ε : Type} : Workspace (ExceptT ε m) where
  readFile path := ExceptT.lift (Workspace.readFile path)
  isDirectory path := ExceptT.lift (Workspace.isDirectory path)
  makeDirectory path := ExceptT.lift (Workspace.makeDirectory path)
  writeFile path content := ExceptT.lift (Workspace.writeFile path content)
  tell notice := ExceptT.lift (Workspace.tell notice)

/-- Gives some notices one after another. -/
def tellAll : List Notice → m Unit
  | [] => pure ()
  | notice :: later => do
      Workspace.tell notice
      tellAll later

/-- Runs a traced computation: gives its notices, then goes on with its value or fails. -/
def perform {ε α : Type} (failure : ε → Failure) (traced : Traced ε α) : Task m α := do
  tellAll traced.notices
  match traced.result with
  | .error fault => throw (failure fault)
  | .ok value => return value

/-! ## Reading -/

/-- Reads a text file. -/
def readText (path : Path) : Task m String := do
  Workspace.tell (.reading path.text)
  match ← Workspace.readFile path with
  | .error fault =>
      throw (if fault = .system .noEntry then .missingFile path else .unreadable path fault)
  | .ok bytes =>
      match String.fromUTF8? bytes with
      | none => throw (.unreadable path .notText)
      | some text => return text

/-- Reads a descriptor file. -/
def readDescriptors (path : Path) : Task m Descriptors := do
  let text ← readText path
  match Descriptors.ofText text with
  | .error report => throw (.json path report)
  | .ok parts => return parts

/-! ## Writing -/

/-- Makes a directory; one that is there already will do. -/
def ensureDirectory (path : Path) : m (Except AccessFault Unit) := do
  match ← Workspace.makeDirectory path with
  | .ok () => return .ok ()
  | .error fault =>
      if fault = .system .alreadyExists then
        if ← Workspace.isDirectory path then return .ok ()
      return .error fault

/-- Makes the first of some paths a directory, each path being the parent of the one before it.  If
its parent is missing, that is made first. -/
def makeDirectories : List Path → m (Except AccessFault Unit)
  | [] => pure (.ok ())
  | path :: parents => do
      if path.text = "" then return .ok ()
      match ← ensureDirectory path with
      | .ok () => return .ok ()
      | .error fault =>
          if fault = .system .noEntry then
            match ← makeDirectories parents with
            | .error above => return .error above
            | .ok () => ensureDirectory path
          else return .error fault

/-- Makes the directory that a file is to be in, unless it is there. -/
def prepareDirectory (path : Path) : Task m Unit := do
  match path.parent? with
  | none => return ()
  | some parent =>
      if parent.text = "" then return ()
      if ← Workspace.isDirectory parent then return ()
      match ← makeDirectories parent.ancestors with
      | .error fault => throw (.noDirectory parent fault)
      | .ok () => return ()

/-- Writes a text to a file, whose directory is made if it is missing. -/
def writeText (path : Path) (text : String) : Task m Unit := do
  prepareDirectory path
  match ← Workspace.writeFile path text.toUTF8 with
  | .error fault => throw (.unwritable path fault)
  | .ok () => Workspace.tell (.wrote path.text text.utf8ByteSize)

/-! ## Projects -/

/-- A directory with two fragments and a descriptor file. -/
structure Project where
  root : Path
deriving DecidableEq

namespace Project

/-- The fragment in front of the part types. -/
def typesPath (project : Project) : Path :=
  project.root.join "types.d.lua"

/-- The fragment behind the part types. -/
def globalsPath (project : Project) : Path :=
  project.root.join "globals.d.lua"

/-- The descriptor file. -/
def partsPath (project : Project) : Path :=
  project.root.join "parts.json"

/-- Where the definitions go unless another place is given. -/
def outputPath (project : Project) : Path :=
  (project.root.join "build").join "pilot.d.lua"

/-- Reads the files of a project: types, parts, globals. -/
def load (project : Project) : Task m Sources := do
  Workspace.tell (.loadingProject project.root.text)
  let types ← readText project.typesPath
  let parts ← readDescriptors project.partsPath
  let globals ← readText project.globalsPath
  return ⟨types, globals, parts⟩

/-- The definitions of a project. -/
def build (project : Project) (config : Config) : Task m String := do
  let sources ← project.load
  perform .assembly (sources.assembleTraced config)

/-- Writes the definitions of a project and tells where they are. -/
def buildAndWrite (project : Project) (config : Config) (output : Option Path) : Task m Path := do
  let text ← project.build config
  let path := output.getD project.outputPath
  writeText path text
  return path

end Project

/-! ## Single descriptor files -/

/-- The failure of faulty descriptors. -/
def Failure.ofPart (fault : PartFault) : Failure :=
  .assembly (.part fault)

/-- Where the part types of a descriptor file go unless another place is given: beside it. -/
def declarationsPath (input : Path) : Path :=
  input.withExtension "d.lua"

/-- Writes the part types of a descriptor file and tells where they are. -/
def generateFile (input : Path) (output : Option Path) (config : Config) : Task m Path := do
  let parts ← readDescriptors input
  let text ← perform .ofPart (parts.standaloneTraced config)
  let path := output.getD (declarationsPath input)
  writeText path text
  return path

/-- Checks a descriptor file, or a project with its fragments when the path is a directory. -/
def check (path : Path) : Task m Unit := do
  if ← Workspace.isDirectory path then
    let _ ← (Project.mk path).build {}
  else
    let parts ← readDescriptors path
    let resolution ← perform .ofPart parts.resolveTraced
    Workspace.tell (.validDescriptors resolution.parts.size)

end PartDefs
