/-!
# Notices

While it works the program gives notices: of each part that it resolves, of each file that it reads
or writes.  A notice has a level, a target that names the area it comes from, a message and
fields.
-/

namespace PartDefs

/-- How important a notice is, the most important first. -/
inductive Level where
  | error
  | warn
  | info
  | debug
  | trace
deriving DecidableEq

/-- The rank of a level; larger ranks are more detailed. -/
def Level.rank : Level → Nat
  | error => 1
  | warn => 2
  | info => 3
  | debug => 4
  | trace => 5

/-- What the program does, as it tells. -/
inductive Notice where
  /-- A part claims to be the default. -/
  | claimedDefault (part : String)
  /-- A part takes over the members of its parent. -/
  | mergedInherited (part parent : String)
  /-- A part is complete, with this many members of each kind. -/
  | resolved (part : String) (methods properties events : Nat)
  /-- A file is about to be read. -/
  | reading (path : String)
  /-- A file has been written with this many bytes. -/
  | wrote (path : String) (bytes : Nat)
  /-- The files of a project are about to be read. -/
  | loadingProject (root : String)
  /-- A descriptor file with this many parts has been found valid. -/
  | validDescriptors (parts : Nat)
deriving DecidableEq

/-- The value of a field: text that is shown between quotes, text as it is, or a number. -/
inductive FieldValue where
  | quoted (text : String)
  | bare (text : String)
  | number (value : Nat)
deriving DecidableEq

namespace Notice

/-- The level of a notice. -/
def level : Notice → Level
  | claimedDefault _ | mergedInherited _ _ | resolved _ _ _ _ => .debug
  | reading _ | loadingProject _ => .debug
  | wrote _ _ | validDescriptors _ => .info

/-- The area a notice comes from. -/
def target : Notice → String
  | claimedDefault _ | mergedInherited _ _ | resolved _ _ _ _ => "pilotgen::resolve"
  | reading _ | wrote _ _ => "pilotgen::files"
  | loadingProject _ => "pilotgen::assemble"
  | validDescriptors _ => "pilotgen::commands::check"

/-- The message of a notice. -/
def message : Notice → String
  | claimedDefault _ => "claimed default part"
  | mergedInherited _ _ => "merged inherited members"
  | resolved _ _ _ _ => "resolved part"
  | reading _ => "reading"
  | wrote _ _ => "wrote definitions"
  | loadingProject _ => "loading project"
  | validDescriptors _ => "descriptors are valid"

/-- The fields of a notice, in the order in which they are shown. -/
def fields : Notice → List (String × FieldValue)
  | claimedDefault part => [("part", .quoted part)]
  | mergedInherited part parent => [("part", .quoted part), ("parent", .bare parent)]
  | resolved part methods properties events =>
      [("part", .quoted part), ("methods", .number methods), ("properties", .number properties),
        ("events", .number events)]
  | reading path => [("path", .bare path)]
  | wrote path bytes => [("path", .bare path), ("bytes", .number bytes)]
  | loadingProject root => [("root", .bare root)]
  | validDescriptors parts => [("parts", .number parts)]

end Notice

end PartDefs
