import Mathlib.Tactic.SplitIfs
import PartDefs.Json.Escape
import PartDefs.Luau.PortLookup
import PartDefs.Proofs.Text.Lines

/-!
# String literals

Names of events and parts are written as string literals, between quotes and otherwise as they are.
A reader of Luau takes a literal up to the first quote that is not part of an escape, and the bytes
that it gets are those of the name only if nothing in the name is special to it: no quote, no
backslash and no character that ends the line.
-/

namespace PartDefs.Luau

/-! ## Reading literals -/

/-- The bytes of a code point in UTF-8. -/
def utf8 (code : Nat) : List Nat :=
  if code < 0x80 then [code]
  else if code < 0x800 then [0xc0 + code / 0x40, 0x80 + code % 0x40]
  else if code < 0x10000 then
    [0xe0 + code / 0x1000, 0x80 + code / 0x40 % 0x40, 0x80 + code % 0x40]
  else
    [0xf0 + code / 0x40000, 0x80 + code / 0x1000 % 0x40, 0x80 + code / 0x40 % 0x40,
      0x80 + code % 0x40]

/-- The bytes of a text in UTF-8. -/
def bytes (text : List Char) : List Nat :=
  text.flatMap fun c => utf8 c.toNat

/-- The characters that end a line, and the one that ends a file. -/
def endsLine (c : Char) : Bool :=
  c = '\n' || c = '\r' || c = '\x00'

/-- The characters that the escape `\z` passes. -/
def isPassed (c : Char) : Bool :=
  c = ' ' || (0x09 ≤ c.toNat && c.toNat ≤ 0x0d)

/-- The letters of escapes that stand for control characters. -/
def controlLetters : List (Char × Nat) :=
  [('a', 7), ('b', 8), ('f', 12), ('n', 10), ('r', 13), ('t', 9), ('v', 11)]

/-- The number that digits spell. -/
def number (base : Nat) (digits : List Char) : Nat :=
  digits.foldl (fun value c => value * base + (Json.hexDigit? c).getD 0) 0

/-- The byte of two hexadecimal digits. -/
def byteEscape? : List Char → Option (List Nat × List Char)
  | a :: b :: rest =>
      if (Json.hexDigit? a).isSome ∧ (Json.hexDigit? b).isSome then
        some ([number 16 [a, b]], rest)
      else none
  | _ => none

/-- The byte of at most three decimal digits. -/
def decimalEscape? (text : List Char) : Option (List Nat × List Char) :=
  let digits := (text.take 3).takeWhile Char.isDigit
  if number 10 digits < 256 then some ([number 10 digits], text.drop digits.length) else none

/-- The code point of hexadecimal digits in braces. -/
def codeEscape? : List Char → Option (List Nat × List Char)
  | '\x7b' :: rest =>
      let digits := rest.takeWhile fun c => (Json.hexDigit? c).isSome
      match rest.drop digits.length with
      | '\x7d' :: behind =>
          if digits ≠ [] ∧ number 16 digits < 0x110000 then
            some (utf8 (number 16 digits), behind)
          else none
      | _ => none
  | _ => none

/-- The bytes of an escape, its backslash being behind, and the text that follows it.  A line break
stays a line break, and a character without a meaning of its own stands for itself. -/
def escape? : List Char → Option (List Nat × List Char)
  | [] => none
  | c :: rest =>
      if c = '\x00' then none
      else if c = '\r' then some ([10], if rest.head? = some '\n' then rest.tail else rest)
      else if c = 'z' then some ([], rest.dropWhile isPassed)
      else if c = 'x' then byteEscape? rest
      else if c = 'u' then codeEscape? rest
      else if c.isDigit then decimalEscape? (c :: rest)
      else some ((controlLetters.lookup c).elim (utf8 c.toNat) fun byte => [byte], rest)

theorem bytes_cons (c : Char) (text : List Char) : bytes (c :: text) = utf8 c.toNat ++ bytes text :=
  rfl

theorem bytes_append (front behind : List Char) :
    bytes (front ++ behind) = bytes front ++ bytes behind :=
  List.flatMap_append

theorem length_utf8_pos (code : Nat) : 0 < (utf8 code).length := by
  unfold utf8
  split <;> try split <;> try split
  all_goals simp

theorem length_utf8_le (code : Nat) : (utf8 code).length ≤ 4 := by
  unfold utf8
  split
  · simp
  · split
    · simp
    · split <;> simp

theorem length_le_length_bytes (text : List Char) : text.length ≤ (bytes text).length := by
  induction text with
  | nil => exact Nat.le_refl 0
  | cons c text ih =>
      have := length_utf8_pos c.toNat
      rw [bytes_cons, List.length_append, List.length_cons]
      omega

/-- An escape takes some characters, and it has no more bytes than they have. -/
structure Fits (text : List Char) (read : List Nat × List Char) : Prop where
  shorter : read.2.length < text.length
  bytes : read.1.length + (bytes read.2).length ≤ (bytes text).length

theorem fits_append {front behind : List Char} {denoted : List Nat} (some : front ≠ [])
    (few : denoted.length ≤ (bytes front).length) : Fits (front ++ behind) (denoted, behind) where
  shorter := by
    rw [List.length_append]
    exact Nat.lt_add_of_pos_left (List.length_pos_iff.2 some)
  bytes := by
    rw [bytes_append, List.length_append]
    exact Nat.add_le_add_right few _

/-- An escape that takes a character and perhaps more has as many bytes as the character. -/
theorem fits_of_suffix {c : Char} {rest behind : List Char} {denoted : List Nat}
    (suffix : behind <:+ rest) (few : denoted.length ≤ (utf8 c.toNat).length) :
    Fits (c :: rest) (denoted, behind) := by
  obtain ⟨front, rfl⟩ := suffix
  refine fits_append (List.cons_ne_nil c front) (Nat.le_trans few ?_)
  rw [bytes_cons, List.length_append]
  exact Nat.le_add_right _ _

theorem fits_byteEscape? {c : Char} {rest : List Char} {read : List Nat × List Char}
    (escaped : byteEscape? rest = some read) : Fits (c :: rest) read := by
  unfold byteEscape? at escaped
  split at escaped
  · split_ifs at escaped
    obtain rfl := Option.some.inj escaped
    exact fits_of_suffix (List.suffix_append [_, _] _) (length_utf8_pos _)
  · cases escaped

theorem fits_codeEscape? {c : Char} {rest : List Char} {read : List Nat × List Char}
    (escaped : codeEscape? rest = some read) : Fits (c :: rest) read := by
  unfold codeEscape? at escaped
  split at escaped
  · next rest =>
      generalize rest.takeWhile _ = digits at escaped
      simp only at escaped
      split at escaped
      · next behind closed =>
          split_ifs at escaped with sound
          obtain rfl := Option.some.inj escaped
          have whole : c :: '\x7b' :: rest =
              (c :: '\x7b' :: (rest.take digits.length ++ ['\x7d'])) ++ behind := by
            simp [← closed]
          have taken : 0 < (rest.take digits.length).length := by
            have digit := List.length_pos_iff.2 sound.1
            have := congrArg List.length closed
            rw [List.length_drop, List.length_cons] at this
            rw [List.length_take]
            omega
          -- The letter, the braces and one digit make up for the bytes of any code point.
          have few := length_le_length_bytes (c :: '\x7b' :: (rest.take digits.length ++ ['\x7d']))
          rw [whole]
          refine fits_append (List.cons_ne_nil _ _) (Nat.le_trans (length_utf8_le _) ?_)
          simp only [List.length_cons, List.length_append, List.length_nil] at few
          omega
      · cases escaped
  · cases escaped

theorem fits_decimalEscape? {c : Char} {rest : List Char} {read : List Nat × List Char}
    (digit : c.isDigit = true) (escaped : decimalEscape? (c :: rest) = some read) :
    Fits (c :: rest) read := by
  simp only [decimalEscape?, List.take_succ_cons, List.takeWhile_cons, digit, if_true,
    List.length_cons, List.drop_succ_cons] at escaped
  split at escaped
  · obtain rfl := Option.some.inj escaped
    exact fits_of_suffix (List.drop_suffix _ _) (length_utf8_pos _)
  · cases escaped

theorem fits_escape? {text : List Char} {read : List Nat × List Char}
    (escaped : escape? text = some read) : Fits text read := by
  cases text with
  | nil => cases escaped
  | cons c rest =>
      rw [escape?] at escaped
      split_ifs at escaped with _ _ windows _ _ _ digit
      · obtain rfl := Option.some.inj escaped
        exact fits_of_suffix (List.tail_suffix rest) (length_utf8_pos _)
      · obtain rfl := Option.some.inj escaped
        exact fits_of_suffix List.suffix_rfl (length_utf8_pos _)
      · obtain rfl := Option.some.inj escaped
        exact fits_of_suffix (List.dropWhile_suffix _) (Nat.zero_le _)
      · exact fits_byteEscape? escaped
      · exact fits_codeEscape? escaped
      · exact fits_decimalEscape? digit escaped
      · obtain rfl := Option.some.inj escaped
        refine fits_of_suffix List.suffix_rfl ?_
        cases controlLetters.lookup c with
        | none => exact Nat.le_refl _
        | some byte => exact length_utf8_pos _

/-- The bytes of a literal, its opening quote being behind, and the text behind its closing
quote. -/
def letters? (text : List Char) : Option (List Nat × List Char) :=
  match text with
  | [] => none
  | c :: rest =>
      if c = '"' then some ([], rest)
      else if endsLine c then none
      else if c = '\\' then
        match _escaped : escape? rest with
        | none => none
        | some (denoted, behind) =>
            (letters? behind).map fun later => (denoted ++ later.1, later.2)
      else (letters? rest).map fun later => (utf8 c.toNat ++ later.1, later.2)
termination_by text.length
decreasing_by
  · exact Nat.lt_trans (fits_escape? _escaped).shorter (Nat.lt_succ_self _)
  · exact Nat.lt_succ_self _

/-- The bytes of a literal that begins a text, and what follows it. -/
def literal? : List Char → Option (List Nat × List Char)
  | '"' :: text => letters? text
  | _ => none

/-! ## Names in quotes -/

/-- The name has no character that means something else in a literal. -/
def IsPlainName (name : String) : Prop :=
  ∀ c ∈ name.toList, c ≠ '"' ∧ c ≠ '\\' ∧ endsLine c = false

theorem letters?_quote (rest : List Char) : letters? ('"' :: rest) = some ([], rest) := by
  rw [letters?, if_pos rfl]

theorem letters?_raw {c : Char} (plain : c ≠ '"' ∧ c ≠ '\\' ∧ endsLine c = false)
    (rest : List Char) : letters? (c :: rest) =
      (letters? rest).map fun later => (utf8 c.toNat ++ later.1, later.2) := by
  obtain ⟨notQuote, notEscape, inLine⟩ := plain
  rw [letters?, if_neg notQuote, if_neg (by simp [inLine]), if_neg notEscape]

theorem letters?_escape (rest : List Char) : letters? ('\\' :: rest) =
    (escape? rest).bind fun read =>
      (letters? read.2).map fun later => (read.1 ++ later.1, later.2) := by
  rw [letters?, if_neg (by decide), if_neg (by decide), if_pos rfl]
  split
  · next none => rw [none]; rfl
  · next found => rw [found]; rfl

/-- A literal has fewer bytes than the text that it takes, its closing quote included. -/
theorem length_lt_of_letters? {text behind : List Char} {denoted : List Nat}
    (read : letters? text = some (denoted, behind)) :
    denoted.length + (bytes behind).length < (bytes text).length := by
  fun_induction letters? text generalizing denoted behind with
  | case1 => cases read
  | case2 rest =>
      obtain ⟨rfl, rfl⟩ := Prod.mk.inj (Option.some.inj read)
      simp [bytes_cons, utf8]
  | case3 => cases read
  | case4 => cases read
  | case5 rest first after escaped _ _ ih =>
      obtain ⟨later, goesOn, same⟩ := Option.map_eq_some_iff.1 read
      obtain ⟨rfl, rfl⟩ := Prod.mk.inj same
      have shorter := ih goesOn
      have fits := (fits_escape? escaped).bytes
      rw [bytes_cons, List.length_append, List.length_append]
      simp only at fits
      omega
  | case6 c rest _ _ _ ih =>
      obtain ⟨later, goesOn, same⟩ := Option.map_eq_some_iff.1 read
      obtain ⟨rfl, rfl⟩ := Prod.mk.inj same
      have shorter := ih goesOn
      rw [bytes_cons, List.length_append, List.length_append]
      omega

/-- A literal that is read back does not begin with a character that means something else. -/
theorem plain_of_letters?_cons {c : Char} {name behind : List Char}
    (read : letters? (c :: (name ++ '"' :: behind)) = some (bytes (c :: name), behind)) :
    c ≠ '"' ∧ c ≠ '\\' ∧ endsLine c = false := by
  have notQuote : c ≠ '"' := by
    rintro rfl
    -- The literal would end at once, and more would be left behind.
    rw [letters?_quote] at read
    have lengths := congrArg List.length (congrArg Prod.snd (Option.some.inj read))
    simp only [List.length_append, List.length_cons] at lengths
    omega
  have inLine : endsLine c = false := by
    cases ends : endsLine c with
    | false => rfl
    | true =>
        rw [letters?, if_neg notQuote, if_pos ends] at read
        cases read
  have notEscape : c ≠ '\\' := by
    rintro rfl
    -- With its backslash an escape takes more bytes than it stands for, so some would be missing.
    rw [letters?_escape] at read
    obtain ⟨⟨first, after⟩, escaped, read⟩ := Option.bind_eq_some_iff.1 read
    obtain ⟨⟨denoted, rest⟩, goesOn, same⟩ := Option.map_eq_some_iff.1 read
    obtain ⟨whole, rfl⟩ := Prod.mk.inj same
    have fits := (fits_escape? escaped).bytes
    have shorter := length_lt_of_letters? goesOn
    have lengths := congrArg List.length whole
    rw [bytes_append, bytes_cons, List.length_append, List.length_append] at fits
    rw [bytes_cons, List.length_append, List.length_append] at lengths
    have quoteByte : (utf8 '"'.toNat).length = 1 := rfl
    have escapeByte : (utf8 '\\'.toNat).length = 1 := rfl
    simp only at fits shorter lengths
    omega
  exact ⟨notQuote, notEscape, inLine⟩

/-- A name in quotes is read back, up to its closing quote, exactly when it is plain. -/
theorem letters?_name_iff (name behind : List Char) :
    letters? (name ++ '"' :: behind) = some (bytes name, behind) ↔
      ∀ c ∈ name, c ≠ '"' ∧ c ≠ '\\' ∧ endsLine c = false := by
  induction name with
  | nil => simp [letters?_quote, bytes]
  | cons c name ih =>
      rw [List.cons_append, List.forall_mem_cons, ← ih]
      constructor
      · intro read
        have plain := plain_of_letters?_cons read
        rw [letters?_raw plain, bytes_cons] at read
        obtain ⟨later, goesOn, same⟩ := Option.map_eq_some_iff.1 read
        obtain ⟨denoted, rest⟩ := Prod.mk.inj same
        refine ⟨plain, ?_⟩
        rw [goesOn, ← List.append_cancel_left denoted, ← rest]
      · rintro ⟨plain, read⟩
        rw [letters?_raw plain, read, Option.map_some, bytes_cons]

/-! ## The names in declarations -/

/-- Somewhere in a text, a label and a name in quotes stand behind each other, and from the opening
quote on, the name is read back exactly when it is plain. -/
def Tags (label name text : String) : Prop :=
  ∃ front behind : List Char,
    text.toList = front ++ label.toList ++ '"' :: (name.toList ++ '"' :: behind) ∧
      (literal? ('"' :: (name.toList ++ '"' :: behind)) = some (bytes name.toList, behind) ↔
        IsPlainName name)

theorem tags_of_infix {label name text : String}
    (inside : (label ++ "\"" ++ name ++ "\"").toList <:+: text.toList) : Tags label name text := by
  obtain ⟨front, behind, whole⟩ := inside
  refine ⟨front, behind, ?_, letters?_name_iff name.toList behind⟩
  rw [← whole]
  simp

theorem infix_intercalate {piece : List Char} (separator : List Char) {pieces : List (List Char)}
    (listed : piece ∈ pieces) : piece <:+: separator.intercalate pieces := by
  cases pieces with
  | nil => cases listed
  | cons first pieces =>
      rw [intercalate_cons]
      cases listed with
      | head => exact (List.prefix_append _ _).isInfix
      | tail _ later =>
          have joined : separator ++ piece <:+: pieces.flatMap (separator ++ ·) :=
            List.infix_of_mem_flatten (List.mem_map_of_mem later)
          exact (List.suffix_append _ _).isInfix.trans
            (joined.trans (List.suffix_append _ _).isInfix)

theorem infix_toList_intercalate {piece : String} (separator : String) {pieces : List String}
    (listed : piece ∈ pieces) : piece.toList <:+: (separator.intercalate pieces).toList := by
  rw [String.toList_intercalate]
  exact infix_intercalate _ (List.mem_map_of_mem listed)

theorem infix_connectOverload (config : Config) (part : Part) (event : String)
    (params : List Param) :
    ("((self: " ++ part.name ++ ", event: " ++ "\"" ++ event ++ "\"").toList <:+:
      (connectOverload config part event params).toList := by
  refine ⟨[], (", callback: " ++ signature (params.map param) ++ " -> " ++ config.unitType ++
    ") -> " ++ config.connectionType ++ ")").toList, ?_⟩
  unfold connectOverload
  simp [typed, signature, selfParam]

theorem infix_connectMember {config : Config} {part : Part} {event : String × List Param}
    (listed : event ∈ part.events.entries) :
    (connectOverload config part event.1 event.2).toList <:+:
      (connectMember config part).toList := by
  rw [connectMember, typed, String.toList_append]
  have overload := infix_toList_intercalate ("\n" ++ config.indent ++ config.indent ++ "& ")
    (List.mem_map_of_mem (f := fun event => connectOverload config part event.1 event.2) listed)
  exact overload.trans (List.suffix_append _ _).isInfix

theorem infix_declaration {config : Config} {part : Part} {member : String}
    (listed : member ∈ members config part) :
    member.toList <:+: (declaration config part).toList := by
  refine (infix_toList_intercalate (",\n" ++ config.indent) listed).trans ?_
  refine ⟨("type " ++ part.name ++ " = \x7b\n" ++ config.indent).toList, "\n\x7d".toList, ?_⟩
  rw [declaration, braced]
  simp

theorem infix_overload (lookup : PortLookup) (config : Config) (tag part : String) :
    ("((port: " ++ config.portType ++ ", partType: " ++ "\"" ++ tag ++ "\"").toList <:+:
      (lookup.overload config ("\"" ++ tag ++ "\"") part).toList := by
  refine ⟨[], (") -> " ++ lookup.returnType part ++ ")").toList, ?_⟩
  unfold PortLookup.overload
  simp [typed, signature]

theorem infix_lookup {lookup : PortLookup} {config : Config} {parts : List String}
    {defaultPart overload : String}
    (listed : overload ∈ lookup.overloads config parts defaultPart) :
    overload.toList <:+: (lookup.declaration config parts defaultPart).toList := by
  refine (infix_toList_intercalate ("\n" ++ config.indent ++ "& ") listed).trans ?_
  refine ⟨("declare " ++ lookup.name ++ ": ").toList, "\n".toList, ?_⟩
  rw [PortLookup.declaration, typed]
  simp

/-- The label and the literal of an event stand in the declaration of its part. -/
theorem infix_event (config : Config) {part : Part} {event : String × List Param}
    (listed : event ∈ part.events.entries) :
    ("((self: " ++ part.name ++ ", event: " ++ "\"" ++ event.1 ++ "\"").toList <:+:
      (declaration config part).toList := by
  have member : connectMember config part ∈ members config part := by
    simp [members]
  exact (infix_connectOverload config part event.1 event.2).trans
    ((infix_connectMember listed).trans (infix_declaration member))

/-- The label and the literal of a part stand in the declaration of a lookup. -/
theorem infix_tag (lookup : PortLookup) (config : Config) {parts : List String}
    (defaultPart : String) {part : String} (listed : part ∈ parts) :
    ("((port: " ++ config.portType ++ ", partType: " ++ "\"" ++ part ++ "\"").toList <:+:
      (lookup.declaration config parts defaultPart).toList := by
  have overload : lookup.overload config ("\"" ++ part ++ "\"") part ∈
      lookup.overloads config parts defaultPart :=
    List.mem_append_left _ (List.mem_map.2 ⟨part, listed, rfl⟩)
  exact (infix_overload lookup config part part).trans (infix_lookup overload)

/-- The literals of events and parts are read back exactly when their names are plain. -/
theorem literals_iff (config : Config) :
    (∀ (part : Part), ∀ event ∈ part.events.entries,
      Tags ("((self: " ++ part.name ++ ", event: ") event.1 (declaration config part)) ∧
    ∀ (lookup : PortLookup) (parts : List String) (defaultPart : String), ∀ part ∈ parts,
      Tags ("((port: " ++ config.portType ++ ", partType: ") part
        (lookup.declaration config parts defaultPart) := by
  constructor
  · intro part event listed
    exact tags_of_infix (infix_event config listed)
  · intro lookup parts defaultPart part listed
    exact tags_of_infix (infix_tag lookup config defaultPart listed)

/-- A part with an event whose name has quotes in it. -/
def greeter : Part where
  name := "Greeter"
  methods := ∅
  properties := ∅
  events := .ofList [("say \"hi\"", [])]

/-- A literal with quotes in it, and one without. -/
theorem greeter_tags :
    Tags ("((self: " ++ greeter.name ++ ", event: ") "say \"hi\"" (declaration {} greeter) ∧
      ¬ IsPlainName "say \"hi\"" ∧
      Tags ("((port: " ++ ({} : Config).portType ++ ", partType: ") "Greeter"
        (PortLookup.many.declaration {} ["Greeter"] "Greeter") ∧
      IsPlainName "Greeter" := by
  obtain ⟨events, lookups⟩ := literals_iff {}
  refine ⟨events greeter ("say \"hi\"", []) (by decide), ?_,
    lookups .many ["Greeter"] "Greeter" "Greeter" List.mem_cons_self, ?_⟩
  · simp [IsPlainName]
  · simp [IsPlainName, endsLine]

/-- The event is read as what stands before its first quote, and a part of two lines not at all. -/
theorem greeter_misread :
    (∃ front behind : List Char,
      (declaration {} greeter).toList = front ++ "((self: Greeter, event: ".toList ++
        '"' :: ("say \"hi\"".toList ++ '"' :: behind) ∧
      literal? ('"' :: ("say \"hi\"".toList ++ '"' :: behind)) =
        some (bytes "say ".toList, "hi\"\"".toList ++ behind)) ∧
    ∃ front behind : List Char,
      (PortLookup.single.declaration {} ["one\ntwo"] "one\ntwo").toList =
        front ++ "((port: PortLike, partType: ".toList ++
          '"' :: ("one\ntwo".toList ++ '"' :: behind) ∧
      literal? ('"' :: ("one\ntwo".toList ++ '"' :: behind)) = none := by
  constructor
  · have listed : ("say \"hi\"", []) ∈ greeter.events.entries := by
      decide
    obtain ⟨front, behind, whole⟩ := infix_event {} listed
    refine ⟨front, behind, ?_, ?_⟩
    · rw [← whole]
      simp [greeter]
    · have cut : "say \"hi\"".toList ++ '"' :: behind =
          "say ".toList ++ '"' :: ("hi\"\"".toList ++ behind) := by simp
      rw [cut]
      exact (letters?_name_iff "say ".toList _).2 (by simp [endsLine])
  · obtain ⟨front, behind, whole⟩ :=
      infix_tag .single {} "one\ntwo" (List.mem_singleton_self "one\ntwo")
    refine ⟨front, behind, ?_, ?_⟩
    · rw [← whole]
      simp
    · have cut : "one\ntwo".toList ++ '"' :: behind =
          'o' :: 'n' :: 'e' :: '\n' :: ("two".toList ++ '"' :: behind) := by simp
      have broken : letters? ('\n' :: ("two".toList ++ '"' :: behind)) = none := by
        rw [letters?, if_neg (by decide), if_pos (by decide)]
      rw [cut, literal?, letters?_raw (by decide), letters?_raw (by decide),
        letters?_raw (by decide), broken]
      rfl

end PartDefs.Luau
