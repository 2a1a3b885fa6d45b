import PartDefs.Luau.Declaration
import PartDefs.Proofs.Text.Lines

/-!
# The lines of declarations

A declaration is a list of lines: one that opens it with the name of the part, one for each method
and each property, one for each overload of `Connect`, and one that closes it.  If the indentation
and the texts in it have no newlines, these are its lines in the common sense.
-/

namespace PartDefs.Luau

open Text (unlines unlines_cons)

/-- The line of a method or a property. -/
def memberLine (config : Config) (member : String) : List Char :=
  (config.indent ++ member ++ ",").toList

/-- The lines of `Connect`: the first overload stands beside the name. -/
def connectLines (config : Config) : List String → List (List Char)
  | [] => [(config.indent ++ "Connect: ").toList]
  | first :: later =>
      (config.indent ++ "Connect: " ++ first).toList ::
        later.map fun overload => (config.indent ++ config.indent ++ "& " ++ overload).toList

/-- The lines of the methods of a part. -/
def methodLines (config : Config) (part : Part) : List (List Char) :=
  part.methods.entries.map fun method =>
    memberLine config (methodMember config part method.1 method.2)

/-- The lines of the properties of a part. -/
def propertyLines (config : Config) (part : Part) : List (List Char) :=
  part.properties.entries.map fun property => memberLine config (typed property.1 property.2)

/-- The lines of the events of a part. -/
def eventLines (config : Config) (part : Part) : List (List Char) :=
  connectLines config (part.events.entries.map fun event =>
    connectOverload config part event.1 event.2)

/-- The lines of the members of a part. -/
def memberLines (config : Config) (part : Part) : List (List Char) :=
  methodLines config part ++ (propertyLines config part ++ eventLines config part)

/-- The lines of a declaration except the last one. -/
def openLines (config : Config) (part : Part) : List (List Char) :=
  ("type " ++ part.name ++ " = \x7b").toList :: memberLines config part

/-- The last line of a declaration. -/
def closingLine : List Char := ['\x7d']

/-- Apart from the label alone, a line of `Connect` is an overload behind one of two labels. -/
theorem eq_or_exists_of_mem_connectLines {config : Config} {overloads : List String}
    {line : List Char} (listed : line ∈ connectLines config overloads) :
    line = (config.indent ++ "Connect: ").toList ∨
      ∃ label ∈ ["Connect: ", config.indent ++ "& "], ∃ text ∈ overloads,
        line = (config.indent ++ (label ++ text)).toList := by
  cases overloads with
  | nil => exact .inl (List.mem_singleton.1 listed)
  | cons first later =>
      rcases List.mem_cons.1 listed with rfl | listed
      · exact .inr ⟨_, List.mem_cons_self, first, List.mem_cons_self, by rw [String.append_assoc]⟩
      · obtain ⟨text, member, rfl⟩ := List.mem_map.1 listed
        refine .inr ⟨config.indent ++ "& ", by simp, text, List.mem_cons_of_mem first member, ?_⟩
        rw [String.append_assoc, String.append_assoc, String.append_assoc]

/-! ## Declarations are made of their lines -/

theorem toList_connect (config : Config) (overloads : List String) :
    (config.indent ++ typed "Connect"
      (("\n" ++ config.indent ++ config.indent ++ "& ").intercalate overloads)).toList ++ ['\n'] =
        unlines (connectLines config overloads) := by
  cases overloads with
  | nil => simp [connectLines, typed]
  | cons first later =>
      have split := Text.intercalate_newline (config.indent ++ config.indent ++ "& ").toList
        first.toList (later.map String.toList)
      calc
        _ = (config.indent ++ "Connect: ").toList ++
            (('\n' :: (config.indent ++ config.indent ++ "& ").toList).intercalate
              (first.toList :: later.map String.toList) ++ ['\n']) := by
          simp [typed]
        _ = unlines (connectLines config (first :: later)) := by
          rw [split]
          simp [connectLines, Function.comp_def]

theorem toList_intercalate_members (config : Config) (members : List String) (last : String) :
    (config.indent ++ (",\n" ++ config.indent).intercalate (members ++ [last])).toList =
      unlines (members.map (memberLine config)) ++ (config.indent ++ last).toList := by
  have split := Text.append_intercalate_concat config.indent.toList [','] last.toList
    (members.map String.toList)
  have lines : (members.map String.toList).map (config.indent.toList ++ · ++ [',']) =
      members.map (memberLine config) := by
    simp [memberLine, Function.comp_def]
  rw [lines] at split
  simpa [String.toList_append] using split

theorem toList_members (config : Config) (part : Part) :
    (config.indent ++ (",\n" ++ config.indent).intercalate (members config part)).toList ++ ['\n'] =
      unlines (memberLines config part) := by
  rw [members, toList_intercalate_members, List.append_assoc, connectMember, toList_connect,
    ← Text.unlines_append, memberLines, List.map_append, List.map_map, List.map_map,
    List.append_assoc]
  rfl

theorem toList_declaration (config : Config) (part : Part) :
    (declaration config part).toList ++ ['\n'] =
      unlines (openLines config part ++ [closingLine]) := by
  have inner := toList_members config part
  have split : (declaration config part).toList ++ ['\n'] =
      ("type " ++ part.name ++ " = \x7b").toList ++ '\n' ::
        ((config.indent ++ (",\n" ++ config.indent).intercalate (members config part)).toList ++
          ['\n']) ++ ['\x7d', '\n'] := by
    simp [declaration, braced]
  rw [split, inner]
  simp [openLines, closingLine]

/-- Declarations below each other are made of the lines of all of them. -/
theorem toList_declarations {parts : List Part} (config : Config) (present : parts ≠ []) :
    ("\n".intercalate (parts.map (declaration config))).toList ++ ['\n'] =
      unlines (parts.flatMap fun part => openLines config part ++ [closingLine]) := by
  have present' : (parts.map (declaration config)).map String.toList ≠ [] := by simpa using present
  calc
    _ = ((parts.map (declaration config)).map String.toList).flatMap (· ++ ['\n']) := by
      rw [String.toList_intercalate]
      exact intercalate_append_separator present'
    _ = parts.flatMap fun part => unlines (openLines config part ++ [closingLine]) := by
      simp only [List.flatMap_map, toList_declaration]
    _ = unlines (parts.flatMap fun part => openLines config part ++ [closingLine]) := by
      rw [unlines, List.flatMap_assoc]
      rfl

end PartDefs.Luau
