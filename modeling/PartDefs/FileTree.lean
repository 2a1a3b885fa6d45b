import PartDefs.Access
import PartDefs.OrderedMap

/-!
# File trees

A tree of directories and files without links or permissions, with a working directory.  A path is
followed step by step; each step has to start from a directory.
-/

namespace PartDefs

/-- A place in a tree: the names on the way to it, the last name first. -/
abbrev FileLocation := List String

/-- What is at a place. -/
inductive FileNode where
  | directory
  | file (content : ByteArray)

/-- Whether a node is a directory. -/
def FileNode.isDirectory : FileNode → Bool
  | directory => true
  | file _ => false

/-- A tree of directories and files. -/
structure FileTree where
  /-- What is at each place.  The root, which is always a directory, is not listed. -/
  nodes : OrderedMap FileLocation FileNode
  /-- The working directory. -/
  home : FileLocation

namespace FileTree

/-- The most bytes that a name can have. -/
def maxNameBytes : Nat := 255

/-- The most bytes that a path can have. -/
def maxPathBytes : Nat := 4095

/-- What is at a place, if there is anything. -/
def node? (tree : FileTree) (place : FileLocation) : Option FileNode :=
  if place = [] then some .directory else tree.nodes.get? place

/-- Goes one step further. -/
def step (tree : FileTree) (place : FileLocation) (step : Path.Step) :
    Except SystemError FileLocation :=
  match tree.node? place with
  | none => .error .noEntry
  | some (.file _) => .error .notDirectory
  | some .directory =>
      match step with
      | .here => .ok place
      | .up => .ok place.tail
      | .down name =>
          if maxNameBytes < name.utf8ByteSize then .error .nameTooLong
          else if (tree.node? (name :: place)).isSome then .ok (name :: place)
          else .error .noEntry

/-- Goes along some steps. -/
def follow (tree : FileTree) (place : FileLocation) :
    List Path.Step → Except SystemError FileLocation
  | [] => .ok place
  | first :: later =>
      match tree.step place first with
      | .error error => .error error
      | .ok next => tree.follow next later

/-- Where the steps of a path start. -/
def start (tree : FileTree) (path : Path) : FileLocation :=
  if path.isAbsolute then [] else tree.home

/-- Refuses paths that cannot name anything in any tree. -/
def checkPath (path : Path) : Except AccessFault Unit :=
  if path.text.toList.contains '\x00' then .error .nulInPath
  else if path.text = "" then .error (.system .noEntry)
  else if maxPathBytes < path.text.utf8ByteSize then .error (.system .nameTooLong)
  else .ok ()

/-- The place that a path leads to and what is there. -/
def find (tree : FileTree) (path : Path) : Except AccessFault (FileLocation × FileNode) :=
  match checkPath path with
  | .error fault => .error fault
  | .ok () =>
      match tree.follow (tree.start path) path.steps with
      | .error error => .error (.system error)
      | .ok place =>
          match tree.node? place with
          | none => .error (.system .noEntry)
          | some .directory => .ok (place, .directory)
          | some (.file content) =>
              if path.asksForDirectory then .error (.system .notDirectory)
              else .ok (place, .file content)

/-- The directory in which the last step of a path starts, and that step. -/
def findLast (tree : FileTree) (path : Path) :
    Except AccessFault (FileLocation × Option Path.Step) :=
  match checkPath path with
  | .error fault => .error fault
  | .ok () =>
      match tree.follow (tree.start path) path.steps.dropLast with
      | .error error => .error (.system error)
      | .ok place =>
          match tree.node? place with
          | none => .error (.system .noEntry)
          | some (.file _) => .error (.system .notDirectory)
          | some .directory => .ok (place, path.steps.getLast?)

/-- Puts something at a place. -/
def put (tree : FileTree) (place : FileLocation) (node : FileNode) : FileTree :=
  { tree with nodes := tree.nodes.insert place node }

theorem node?_put_self (tree : FileTree) {place : FileLocation} (node : FileNode)
    (below : place ≠ []) : (tree.put place node).node? place = some node := by
  simp [node?, put, below]

theorem node?_put_of_ne (tree : FileTree) {place other : FileLocation} (node : FileNode)
    (apart : other ≠ place) : (tree.put place node).node? other = tree.node? other := by
  simp [node?, put, apart]

/-! ## The four requests -/

/-- Whether a path names a directory. -/
def isDirectory (tree : FileTree) (path : Path) : Bool :=
  match tree.find path with
  | .ok (_, .directory) => true
  | _ => false

/-- The bytes of the file that a path names. -/
def read (tree : FileTree) (path : Path) : Except AccessFault ByteArray :=
  match tree.find path with
  | .error fault => .error fault
  | .ok (_, .directory) => .error (.system .isDirectory)
  | .ok (_, .file content) => .ok content

/-- Where a new directory would be made. -/
def newDirectory (tree : FileTree) (path : Path) : Except AccessFault FileLocation :=
  match tree.findLast path with
  | .error fault => .error fault
  | .ok (place, some (.down name)) =>
      if maxNameBytes < name.utf8ByteSize then .error (.system .nameTooLong)
      else if (tree.node? (name :: place)).isSome then .error (.system .alreadyExists)
      else .ok (name :: place)
  | .ok (_, _) => .error (.system .alreadyExists)

/-- Where a file would be written. -/
def target (tree : FileTree) (path : Path) : Except AccessFault FileLocation :=
  match tree.findLast path with
  | .error fault => .error fault
  | .ok (place, some (.down name)) =>
      if path.asksForDirectory then .error (.system .isDirectory)
      else if maxNameBytes < name.utf8ByteSize then .error (.system .nameTooLong)
      else if (tree.node? (name :: place)).any FileNode.isDirectory then
        .error (.system .isDirectory)
      else .ok (name :: place)
  | .ok (_, _) => .error (.system .isDirectory)

/-- Makes a directory. -/
def makeDirectory (tree : FileTree) (path : Path) : Except AccessFault FileTree :=
  (tree.newDirectory path).map fun place => tree.put place .directory

/-- Writes a file. -/
def write (tree : FileTree) (path : Path) (content : ByteArray) : Except AccessFault FileTree :=
  (tree.target path).map fun place => tree.put place (.file content)

end FileTree

/-- A tree as it changes, with the notices given so far. -/
structure Session where
  tree : FileTree
  notices : List Notice

/-- Computations that read and change a tree. -/
abbrev SessionM := StateM Session

namespace Session

/-- The outcome of a change: the tree is replaced if there is a new one. -/
def change (session : Session) : Except AccessFault FileTree → Except AccessFault Unit × Session
  | .error fault => (.error fault, session)
  | .ok tree => (.ok (), { session with tree })

end Session

instance : Workspace SessionM where
  readFile path := fun session => (session.tree.read path, session)
  isDirectory path := fun session => (session.tree.isDirectory path, session)
  makeDirectory path := fun session => session.change (session.tree.makeDirectory path)
  writeFile path content := fun session => session.change (session.tree.write path content)
  tell notice := fun session => ((), { session with notices := session.notices ++ [notice] })

end PartDefs
