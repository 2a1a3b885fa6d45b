/-!
# Paths

A path is a text of components between slashes.  Slashes at its end and components `.` do not
count, except for a leading slash or a leading `.`.  What a path names is decided elsewhere; here
it is only taken apart and put together, and everything that does not have to change is kept as it
was written.
-/

namespace PartDefs

/-- A path as it is written. -/
structure Path where
  text : String
deriving DecidableEq

namespace Path

/-- A path read backwards, without the slashes and the components `.` at its end. -/
def trimBack : List Char → List Char
  | ['/'] => ['/']
  | '/' :: rest => trimBack rest
  | '.' :: '/' :: rest => trimBack ('/' :: rest)
  | back => back

theorem length_trimBack_le (back : List Char) : (trimBack back).length ≤ back.length := by
  fun_induction trimBack back with
  | case1 => simp
  | case2 rest _ ih =>
      simp only [List.length_cons]
      omega
  | case3 rest ih =>
      simp only [List.length_cons] at ih ⊢
      omega
  | case4 => simp

/-- The characters of a path, last to first, without what does not count at its end. -/
def back (path : Path) : List Char :=
  trimBack path.text.toList.reverse

/-- The last component that counts, which may be `.`, `..` or nothing. -/
def lastComponent (path : Path) : String :=
  String.ofList (path.back.takeWhile (· ≠ '/')).reverse

/-- The text in front of the last component. -/
def beforeLast (path : Path) : String :=
  String.ofList (path.back.dropWhile (· ≠ '/')).reverse

/-- Whether nothing is written behind the last component. -/
def endsInComponent (path : Path) : Bool :=
  path.back.length = path.text.toList.length

/-- The last component if it is a name. -/
def fileName? (path : Path) : Option String :=
  let last := path.lastComponent
  if last = "" ∨ last = "." ∨ last = ".." then none else some last

/-- The path without its last component, if it has one. -/
def parent? (path : Path) : Option Path :=
  if path.lastComponent = "" then none
  else some ⟨String.ofList (trimBack (path.back.dropWhile (· ≠ '/'))).reverse⟩

theorem length_parent_lt {path parent : Path} (found : path.parent? = some parent) :
    parent.text.toList.length < path.text.toList.length := by
  unfold parent? at found
  split at found
  · cases found
  · next named =>
      obtain rfl := (Option.some.inj found).symm
      have whole := length_trimBack_le path.text.toList.reverse
      have shorter := length_trimBack_le (path.back.dropWhile (· ≠ '/'))
      have parts := congrArg List.length
        (List.takeWhile_append_dropWhile (p := (· ≠ '/')) (l := path.back))
      have present : (path.back.takeWhile (· ≠ '/')).length ≠ 0 := by
        intro absent
        rw [List.length_eq_zero_iff] at absent
        rw [lastComponent, absent] at named
        exact named rfl
      simp only [List.length_append, List.length_reverse, String.toList_ofList] at *
      change path.back.length ≤ _ at whole
      omega

/-- The path, its parent, the parent of that, and so on. -/
def ancestors (path : Path) : List Path :=
  match _ : path.parent? with
  | none => [path]
  | some parent => path :: parent.ancestors
termination_by path.text.toList.length
decreasing_by exact length_parent_lt ‹_›

/-- The path of a name below a directory. -/
def join (path : Path) (name : String) : Path :=
  if path.text.isEmpty || path.text.toList.getLast? = some '/' then ⟨path.text ++ name⟩
  else ⟨path.text ++ "/" ++ name⟩

/-! ## Extensions -/

/-- A file name cut at its last point: the stem and the extension.  A name whose only point is its
first character has no extension. -/
def splitExtension (name : String) : String × Option String :=
  let extension := (name.toList.reverse.takeWhile (· ≠ '.')).reverse
  match name.toList.reverse.dropWhile (· ≠ '.') with
  | [] | ['.'] => (name, none)
  | _ :: stem => (String.ofList stem.reverse, some (String.ofList extension))

/-- Whether only the extension keeps a path from ending in the component `..`. -/
def isParentWithExtension (path : Path) (name : String) : Bool :=
  match splitExtension name with
  | (stem, some extension) => stem == "." && extension != "" && path.endsInComponent
  | (_, none) => false

/-- Gives the file that a path names another extension and drops what is written behind the name.
A path that names no file stays as it is.  The old extension is taken off first, and if `..` is
left, this names the parent directory and gets no extension. -/
def withExtension (path : Path) (extension : String) : Path :=
  match path.fileName? with
  | none => path
  | some name =>
      if path.isParentWithExtension name then ⟨path.beforeLast ++ ".."⟩
      else ⟨path.beforeLast ++ (splitExtension name).1 ++ "." ++ extension⟩

/-! ## Steps -/

/-- One step on the way that a path describes. -/
inductive Step where
  | here
  | up
  | down (name : String)
deriving DecidableEq

/-- The step of a component. -/
def Step.ofComponent (component : String) : Step :=
  if component = "." then .here else if component = ".." then .up else .down component

/-- The pieces of a text between slashes, the empty ones left out. -/
def pieces (text : List Char) : List (List Char) :=
  match text with
  | [] => []
  | c :: rest =>
      if c = '/' then pieces rest
      else (c :: rest.takeWhile (· ≠ '/')) :: pieces (rest.dropWhile (· ≠ '/'))
termination_by text.length
decreasing_by
  · simp
  · exact Nat.lt_succ_of_le (List.dropWhile_suffix _).length_le

/-- The steps of a path. -/
def steps (path : Path) : List Step :=
  (pieces path.text.toList).map fun piece => Step.ofComponent (String.ofList piece)

/-- Whether a path starts from the root. -/
def isAbsolute (path : Path) : Bool :=
  path.text.toList.head? = some '/'

/-- Whether a slash at the end asks for a directory. -/
def asksForDirectory (path : Path) : Bool :=
  path.text.toList.getLast? = some '/'

end Path

end PartDefs
