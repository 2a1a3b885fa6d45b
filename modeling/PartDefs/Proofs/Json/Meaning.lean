import Mathlib.Data.List.Forall2
import PartDefs.Proofs.Json.Passing

/-!
# The meaning of JSON values

For every reader there is a function on trees that says what it makes of a value, or that the value
is not of its kind.  However a value is spelled, the reader yields what this function says, and it
reads neither less nor more than the spelling.
-/

namespace PartDefs.Json

variable {σ : Type} [Lettered σ] {α ρ : Type}

/-- The text that a string stands for, unless a surrogate has no partner. -/
def textOf? (letters : σ) : Option String :=
  (charsOf? (Lettered.units letters)).map String.ofList

@[simp]
theorem textOf?_ofText (text : String) :
    textOf? (Lettered.ofText text : σ) = some text := by
  rw [textOf?, Lettered.units_ofText, charsOf?_units, Option.map_some, String.ofList_toList]

@[simp]
theorem textOf?_string (text : String) : textOf? text = some text :=
  textOf?_ofText text

namespace Value

/-- The text of a string. -/
def text? : Value σ → Option String
  | .string letters => textOf? letters
  | _ => none

/-- The value of a boolean. -/
def flag? : Value σ → Option Bool
  | .boolean value => some value
  | _ => none

/-- Nothing for `null`, and for other values what they mean. -/
def orNull? (meaning : Value σ → Option α) : Value σ → Option (Option α)
  | .null => some none
  | value => (meaning value).map some

/-- What the elements of an array mean. -/
def list? (meaning : Value σ → Option α) : Value σ → Option (List α)
  | .array items => items.mapM meaning
  | _ => none

/-- A map with further members, each put in under its name. -/
def enter? (meaning : Value σ → Option α) (kept : OrderedMap String α) :
    List (σ × Value σ) → Option (OrderedMap String α)
  | [] => some kept
  | (letters, value) :: members =>
      (textOf? letters).bind fun name => (meaning value).bind fun entry =>
        enter? meaning (kept.insert name entry) members

/-- What the members of an object mean, by their names. -/
def map? (meaning : Value σ → Option α) : Value σ → Option (OrderedMap String α)
  | .object members => enter? meaning ∅ members
  | _ => none

end Value

/-- A field of a record: its name, and the change that a value makes to the record. -/
structure FieldMeaning (σ ρ : Type) where
  name : String
  change? : Value σ → Option (ρ → ρ)

namespace Value

/-- A record with further members.  A known name must not be among those given before. -/
def namedFields? (fields : List (FieldMeaning σ ρ)) (given : List String) (record : ρ) :
    List (σ × Value σ) → Option ρ
  | [] => some record
  | (letters, value) :: members =>
      (textOf? letters).bind fun name =>
        match fields.find? (·.name = name) with
        | some field =>
            if name ∈ given then none
            else (field.change? value).bind fun change =>
              namedFields? fields (name :: given) (change record) members
        | none => namedFields? fields given record members

/-- A record with further elements, one for each of the fields that are left. -/
def listedFields? : List (FieldMeaning σ ρ) → ρ → List (Value σ) → Option ρ
  | _, record, [] => some record
  | [], _, _ :: _ => none
  | field :: fields, record, value :: items =>
      (field.change? value).bind fun change => listedFields? fields (change record) items

/-- The record that an object or an array gives. -/
def record? (fields : List (FieldMeaning σ ρ)) (initial : ρ) : Value σ → Option ρ
  | .object members => namedFields? fields [] initial members
  | .array items => listedFields? fields initial items
  | _ => none

end Value

/-- A reader makes of every spelling of a value what the value means. -/
def Reads (reader : Reader α) (meaning : Value σ → Option α) : Prop :=
  ∀ {text rest : List Char} {value : Value σ}, Spells text value rest →
    Read.outcome (reader text) = (meaning value).map fun read => (read, rest)

/-- A number begins with no mark of another kind. -/
theorem front_number {text rest : List Char} {numeral : Numeral}
    (space : Space text (numeral.chars ++ rest)) (ends : EndsNumber rest) :
    ∃ c behind, front text = some (c, behind) ∧
      ∀ mark, mark ≠ '-' → mark.isDigit = false → c ≠ mark := by
  have spelled : Spells text (.number numeral : Value String) rest := .number space ends
  obtain ⟨c, behind, head, opening⟩ := spelled.exists_front
  refine ⟨c, behind, head, ?_⟩
  rintro mark notMinus notDigit rfl
  rcases opening with minus | digit
  · exact notMinus minus
  · rw [notDigit] at digit
    cases digit

/-! ## Scalars -/

theorem reads_string : Reads string (Value.text? : Value σ → Option String) := by
  intro text rest value spelled
  rw [outcome_string]
  cases spelled with
  | string space letters =>
      rw [space.front_cons (by decide), Option.bind_some, if_pos rfl, letters.outcome_stringTail,
        Value.text?, textOf?, Option.map_map]
      rfl
  | number space ends =>
      obtain ⟨c, behind, head, other⟩ := front_number space ends
      rw [head, Option.bind_some, if_neg (other _ (by decide) (by decide))]
      rfl
  | null space | yes space | no space | array space _ | object space _ =>
      rw [space.front_cons (by decide)]
      rfl

theorem reads_boolean : Reads boolean (Value.flag? : Value σ → Option Bool) := by
  intro text rest value spelled
  rw [outcome_boolean]
  cases spelled with
  | yes space =>
      rw [space.front_cons (by decide), Option.bind_some, if_pos rfl]
      exact congrArg (Option.map _) (outcome_word ['r', 'u', 'e'] rest)
  | no space =>
      rw [space.front_cons (by decide), Option.bind_some, if_neg (by simp), if_pos rfl]
      exact congrArg (Option.map _) (outcome_word ['a', 'l', 's', 'e'] rest)
  | number space ends =>
      obtain ⟨c, behind, head, other⟩ := front_number space ends
      rw [head, Option.bind_some, if_neg (other _ (by decide) (by decide)),
        if_neg (other _ (by decide) (by decide))]
      rfl
  | null space | string space _ | array space _ | object space _ =>
      rw [space.front_cons (by decide)]
      rfl

variable {reader : Reader α} {meaning : Value σ → Option α}

theorem Reads.optional (reads : Reads reader meaning) :
    Reads (optional reader) (Value.orNull? meaning) := by
  intro text rest value spelled
  have given (present : Value.orNull? meaning value = (meaning value).map some) :
      (Read.outcome (reader text)).map (fun read => (some read.1, read.2)) =
        (Value.orNull? meaning value).map fun read => (read, rest) := by
    rw [reads spelled, present, Option.map_map, Option.map_map]
    rfl
  rw [outcome_optional]
  cases spelled with
  | null space =>
      rw [space.front_cons (by decide), Option.bind_some, if_pos rfl]
      exact congrArg (Option.map _) (outcome_word ['u', 'l', 'l'] rest)
  | number space ends =>
      obtain ⟨c, behind, head, other⟩ := front_number space ends
      rw [head, Option.bind_some, if_neg (other _ (by decide) (by decide))]
      exact given rfl
  | yes space | no space | string space _ | array space _ | object space _ =>
      rw [space.front_cons (by decide), Option.bind_some, if_neg (by simp)]
      exact given rfl

/-! ## Lists -/

/-- Behind an opening bracket or a comma, another element begins. -/
theorem Separated.outcome_nextElement {first : Bool} {text inner rest : List Char}
    {value : Value σ} (separated : Separated first text inner) (spelled : Spells inner value rest) :
    NextElement.outcome (nextElement first text) = some (true, inner) := by
  obtain ⟨c, behind, head, opening⟩ := spelled.exists_front
  have notClosing : c ≠ ']' := opening.ne (by simp)
  rw [Json.outcome_nextElement]
  cases separated with
  | first => rw [head, Option.bind_some, if_neg notClosing, if_pos rfl]
  | later space =>
      rw [space.front_cons (by decide), Option.bind_some, if_neg (by simp), if_neg (by simp),
        if_pos rfl, head, Option.bind_some, if_neg notClosing]

theorem outcome_nextElement_close {first : Bool} {text rest : List Char}
    (space : Space text (']' :: rest)) :
    NextElement.outcome (nextElement first text) = some (false, rest) := by
  rw [outcome_nextElement, space.front_cons (by decide), Option.bind_some, if_pos rfl]

theorem Reads.elements (reads : Reads reader meaning) {first : Bool} {text rest : List Char}
    {items : List (Value σ)} (spelled : SpellsItems first text items rest) :
    Read.outcome (elements reader first text) =
      (items.mapM meaning).map fun read => (read, rest) := by
  induction items generalizing first text with
  | nil =>
      cases spelled with
      | close space =>
          rw [outcome_elements, outcome_nextElement_close space]
          rfl
  | cons value items ih =>
      cases spelled with
      | item separated spelled later =>
          rw [outcome_elements, separated.outcome_nextElement spelled, Option.bind_some, if_pos rfl,
            reads spelled, List.mapM_cons]
          cases meaning value with
          | none => rfl
          | some item =>
              simp only [Option.map_some, Option.bind_some, ih later]
              cases List.mapM meaning items <;> rfl

theorem Reads.list (reads : Reads reader meaning) :
    Reads (list reader) (Value.list? meaning) := by
  intro text rest value spelled
  rw [outcome_list]
  cases spelled with
  | array space items =>
      rw [space.front_cons (by decide), Option.bind_some, if_pos rfl, reads.elements items]
      rfl
  | number space ends =>
      obtain ⟨c, behind, head, other⟩ := front_number space ends
      rw [head, Option.bind_some, if_neg (other _ (by decide) (by decide))]
      rfl
  | null space | yes space | no space | string space _ | object space _ =>
      rw [space.front_cons (by decide)]
      rfl

/-! ## Maps -/

theorem outcome_nextKey_close {first : Bool} {text rest : List Char}
    (space : Space text ('\x7d' :: rest)) :
    NextKey.outcome (nextKey first text) = some (none, rest) := by
  rw [outcome_nextKey, space.front_cons (by decide), Option.bind_some, if_pos rfl]

/-- Behind an opening brace or a comma, a key is read as the text that it stands for. -/
theorem Separated.outcome_nextKey {first : Bool} {text inner key afterKey : List Char} {name : σ}
    (separated : Separated first text inner) (quote : Space inner ('"' :: key))
    (letters : Letters key (Lettered.units name) afterKey) :
    NextKey.outcome (nextKey first text) =
      (textOf? name).map fun name => (some name, afterKey) := by
  have read : (Read.outcome (stringTail key)).map (fun name => (some name.1, name.2)) =
      (textOf? name).map fun name => (some name, afterKey) := by
    rw [letters.outcome_stringTail, textOf?, Option.map_map, Option.map_map]
    rfl
  rw [Json.outcome_nextKey, ← read]
  cases separated with
  | first =>
      rw [quote.front_cons (by decide), Option.bind_some, if_neg (by simp), if_pos rfl, if_pos rfl]
  | later space =>
      rw [space.front_cons (by decide), Option.bind_some, if_neg (by simp), if_neg (by simp),
        if_pos rfl, quote.front_cons (by decide), Option.bind_some, if_pos rfl]

theorem Reads.memberValue (reads : Reads reader meaning) {text given rest : List Char}
    {value : Value σ} (colon : Space text (':' :: given)) (spelled : Spells given value rest) :
    Read.outcome (memberValue reader text) = (meaning value).map fun read => (read, rest) := by
  rw [outcome_memberValue, outcome_colon, colon.front_cons (by decide), Option.bind_some,
    if_pos rfl, Option.bind_some, reads spelled]

theorem Reads.members (reads : Reads reader meaning) {first : Bool} {kept : OrderedMap String α}
    {text rest : List Char} {listed : List (σ × Value σ)}
    (spelled : SpellsMembers first text listed rest) :
    Read.outcome (members reader first kept text) =
      (Value.enter? meaning kept listed).map fun read => (read, rest) := by
  induction listed generalizing first kept text with
  | nil =>
      cases spelled with
      | close space =>
          rw [outcome_members, outcome_nextKey_close space]
          rfl
  | cons member listed ih =>
      cases spelled with
      | @member _ _ _ _ _ _ _ _ letters value _ separated quote key colon spelled later =>
          rw [outcome_members, separated.outcome_nextKey quote key, Value.enter?]
          cases textOf? letters with
          | none => rfl
          | some name =>
              simp only [Option.map_some, Option.bind_some]
              rw [reads.memberValue colon spelled]
              cases meaning value with
              | none => rfl
              | some entry => exact ih later

theorem Reads.map (reads : Reads reader meaning) :
    Reads (map reader) (Value.map? meaning) := by
  intro text rest value spelled
  rw [outcome_map]
  cases spelled with
  | object space members =>
      rw [space.front_cons (by decide), Option.bind_some, if_pos rfl, reads.members members]
      rfl
  | number space ends =>
      obtain ⟨c, behind, head, other⟩ := front_number space ends
      rw [head, Option.bind_some, if_neg (other _ (by decide) (by decide))]
      rfl
  | null space | yes space | no space | string space _ | array space _ =>
      rw [space.front_cons (by decide)]
      rfl

/-! ## Records -/

theorem reads_skipValue : Reads skipValue fun _ : Value σ => some () :=
  fun spelled => spelled.outcome_skipValue

/-- A reader whose result is used by a function. -/
theorem Reads.use (reads : Reads reader meaning) (set : α → ρ → ρ) :
    Reads (reader.map set) fun value => (meaning value).map set := by
  intro text rest value spelled
  have read : Read.outcome (reader.map set text) =
      (Read.outcome (reader text)).map fun read => (set read.1, read.2) :=
    Read.outcome_map set (fun _ => rfl) fun _ => rfl
  rw [read, reads spelled, Option.map_map, Option.map_map]
  rfl

/-- A field and its meaning have the same name, and its values are read as they are meant. -/
structure Field.Agrees (field : Field ρ) (known : FieldMeaning σ ρ) : Prop where
  name : field.name = known.name
  reads : Reads field.read known.change?

/-- The field of a name, filled with what a value means. -/
def fieldMeaning (name : String) (meaning : Value σ → Option α) (set : α → ρ → ρ) :
    FieldMeaning σ ρ :=
  ⟨name, fun value => (meaning value).map set⟩

theorem field_agrees (name : String) (reads : Reads reader meaning) (set : α → ρ → ρ) :
    (field name reader set).Agrees (fieldMeaning name meaning set) :=
  ⟨rfl, reads.use set⟩

variable {fields : List (Field ρ)} {known : List (FieldMeaning σ ρ)}

/-- Fields that agree one by one are found under the same names. -/
theorem find?_of_agree (agree : List.Forall₂ Field.Agrees fields known) (name : String) :
    (fields.find? (·.name = name) = none ∧ known.find? (·.name = name) = none) ∨
      ∃ field meant, fields.find? (·.name = name) = some field ∧
        known.find? (·.name = name) = some meant ∧ field.Agrees meant := by
  induction agree with
  | nil => exact .inl ⟨rfl, rfl⟩
  | @cons field meant _ _ here _ ih =>
      by_cases same : meant.name = name
      · refine .inr ⟨field, meant, ?_, ?_, here⟩
        · rw [List.find?_cons_of_pos (by simpa [here.name] using same)]
        · rw [List.find?_cons_of_pos (by simpa using same)]
      · rwa [List.find?_cons_of_neg (by simpa [here.name] using same),
          List.find?_cons_of_neg (by simpa using same)]

theorem outcome_namedFields_of_agree (agree : List.Forall₂ Field.Agrees fields known)
    {first : Bool} {given : List String} {record : ρ} {text rest : List Char}
    {listed : List (σ × Value σ)} (spelled : SpellsMembers first text listed rest) :
    Read.outcome (namedFields fields given first record text) =
      (Value.namedFields? known given record listed).map fun read => (read, rest) := by
  induction listed generalizing first given record text with
  | nil =>
      cases spelled with
      | close space =>
          rw [outcome_namedFields, outcome_nextKey_close space]
          rfl
  | cons member listed ih =>
      cases spelled with
      | @member _ _ _ _ _ _ _ _ letters value _ separated quote key colon spelled later =>
          rw [outcome_namedFields, separated.outcome_nextKey quote key, Value.namedFields?]
          cases textOf? letters with
          | none => rfl
          | some name =>
              simp only [Option.map_some, Option.bind_some]
              obtain ⟨unread, unknown⟩ | ⟨field, meant, found, same, here⟩ :=
                find?_of_agree agree name
              · rw [unread, unknown]
                simp only
                rw [reads_skipValue.memberValue colon spelled]
                exact ih later
              · rw [found, same]
                simp only
                split
                · rfl
                · rw [Reads.memberValue here.reads colon spelled]
                  cases meant.change? value with
                  | none => rfl
                  | some change => exact ih later

theorem outcome_closeFields_of_separated {first : Bool} {text inner rest : List Char}
    {value : Value σ} (separated : Separated first text inner) (spelled : Spells inner value rest) :
    Read.outcome (closeFields text) = none := by
  rw [outcome_closeFields]
  cases separated with
  | first =>
      obtain ⟨c, behind, head, opening⟩ := spelled.exists_front
      rw [head, Option.bind_some, if_neg (opening.ne (by simp))]
  | later space => rw [space.front_cons (by decide), Option.bind_some, if_neg (by simp)]

theorem outcome_listedFields_of_agree {fields : List (Field ρ)} {known : List (FieldMeaning σ ρ)}
    (agree : List.Forall₂ Field.Agrees fields known) :
    ∀ {first : Bool} {record : ρ} {text rest : List Char} {items : List (Value σ)},
      SpellsItems first text items rest → Read.outcome (listedFields fields first record text) =
        (Value.listedFields? known record items).map fun read => (read, rest) := by
  induction agree with
  | nil =>
      intro first record text rest items spelled
      rw [outcome_listedFields_nil]
      cases spelled with
      | close space =>
          rw [outcome_closeFields, space.front_cons (by decide), Option.bind_some, if_pos rfl]
          rfl
      | item separated spelled _ =>
          rw [outcome_closeFields_of_separated separated spelled]
          rfl
  | @cons field meant _ _ here _ ih =>
      intro first record text rest items spelled
      rw [outcome_listedFields_cons]
      cases spelled with
      | close space =>
          rw [outcome_nextElement_close space]
          rfl
      | @item _ _ _ _ _ value _ separated spelled later =>
          rw [separated.outcome_nextElement spelled, Option.bind_some, if_pos rfl,
            here.reads spelled, Value.listedFields?]
          cases meant.change? value with
          | none => rfl
          | some change => exact ih later

theorem reads_record (wanted : Wanted) (agree : List.Forall₂ Field.Agrees fields known)
    (initial : ρ) : Reads (record wanted fields initial) (Value.record? known initial) := by
  intro text rest value spelled
  rw [outcome_record]
  cases spelled with
  | object space members =>
      rw [space.front_cons (by decide), Option.bind_some, if_pos rfl,
        outcome_namedFields_of_agree agree members]
      rfl
  | array space items =>
      rw [space.front_cons (by decide), Option.bind_some, if_neg (by simp), if_pos rfl,
        outcome_listedFields_of_agree agree items]
      rfl
  | number space ends =>
      obtain ⟨c, behind, head, other⟩ := front_number space ends
      rw [head, Option.bind_some, if_neg (other _ (by decide) (by decide)),
        if_neg (other _ (by decide) (by decide))]
      rfl
  | null space | yes space | no space | string space _ =>
      rw [space.front_cons (by decide)]
      rfl

/-! ## Whole texts -/

/-- From a text that spells a value, everything is read that the value means. -/
theorem Reads.document {text : List Char} {value : Value σ} {rest : List Char}
    (reads : Reads reader meaning) (spelled : Spells text value rest) (space : Space rest []) :
    (document reader text).toOption = meaning value := by
  have outcome := reads spelled
  rw [Json.document]
  cases read : reader text with
  | error fault =>
      rw [read] at outcome
      cases meant : meaning value with
      | none => rfl
      | some entry =>
          rw [meant] at outcome
          cases outcome
  | ok whole =>
      rw [read] at outcome
      cases meant : meaning value with
      | none =>
          rw [meant] at outcome
          cases outcome
      | some entry =>
          rw [meant] at outcome
          obtain ⟨rfl, behind⟩ := Prod.mk.inj (Option.some.inj outcome)
          have finished : front whole.rest = none := by rw [behind, space.front_eq, front_nil]
          rw [front] at finished
          cases ahead : lead whole.rest with
          | finished => simp [bind, Except.bind, ahead, pure, Except.pure, Except.toOption]
          | next c rest shorter =>
              rw [ahead] at finished
              cases finished

end PartDefs.Json
