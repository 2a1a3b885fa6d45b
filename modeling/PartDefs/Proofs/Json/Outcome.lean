import PartDefs.Json.Typed

/-!
# Outcomes of reading

A step of reading ends in a fault or yields a value and the text behind it.  Here faults are all
alike, and of a text that was read only what is left of it counts.  Each reader then obeys one
equation on plain texts.
-/

namespace PartDefs.Json

variable {α β ρ : Type} {text : List Char}

/-- What a step has read and the text behind it, unless there was a fault. -/
def Read.outcome (result : Except Fault (Read α text)) : Option (α × List Char) :=
  match result with
  | .ok read => some (read.value, read.rest)
  | .error _ => none

/-- What a step has found and the text behind it, unless there was a fault. -/
def Scan.outcome (result : Except Fault (Scan α text)) : Option (α × List Char) :=
  match result with
  | .ok scan => some (scan.value, scan.rest)
  | .error _ => none

namespace Read

variable {longer : List Char}

theorem outcome_bind {first : Except Fault (Read β text)}
    {next : Read β text → Except Fault (Read α longer)}
    {go : β × List Char → Option (α × List Char)}
    (goes : ∀ read, outcome (next read) = go (read.value, read.rest)) :
    outcome (first >>= next) = (outcome first).bind go := by
  cases first with
  | error fault => rfl
  | ok read => exact goes read

/-- A last step that only puts a value together. -/
theorem outcome_map {step : Except Fault (Read β text)} {wrap : Read β text → Read α longer}
    (f : β → α) (value : ∀ read, (wrap read).value = f read.value)
    (rest : ∀ read, (wrap read).rest = read.rest) :
    outcome (do return wrap (← step)) = (outcome step).map fun read => (f read.1, read.2) := by
  cases step with
  | error fault => rfl
  | ok read => exact congrArg some (Prod.ext (value read) (rest read))

/-- A last step that passes a value on. -/
theorem outcome_pass {step : Except Fault (Read α text)} {wrap : Read α text → Read α longer}
    (value : ∀ read, (wrap read).value = read.value)
    (rest : ∀ read, (wrap read).rest = read.rest) :
    outcome (do return wrap (← step)) = outcome step := by
  cases step with
  | error fault => rfl
  | ok read => exact congrArg some (Prod.ext (value read) (rest read))

end Read

/-- The first character of a text behind leading space, and what stands behind it. -/
def front (text : List Char) : Option (Char × List Char) :=
  match lead text with
  | .finished => none
  | .next c rest _ => some (c, rest)

@[simp]
theorem front_nil : front [] = none :=
  rfl

theorem front_cons_of_isSpace {c : Char} (space : isSpace c = true) (rest : List Char) :
    front (c :: rest) = front rest := by
  rw [front, lead_cons_of_isSpace space, front]
  cases lead rest <;> rfl

theorem front_cons_of_not_isSpace {c : Char} (token : isSpace c = false) (rest : List Char) :
    front (c :: rest) = some (c, rest) := by
  rw [front, lead_cons_of_not_isSpace token]
  rfl

/-! ## Scalars -/

theorem outcome_string (text : List Char) :
    Read.outcome (string text) = (front text).bind fun head =>
      if head.1 = '"' then Read.outcome (stringTail head.2) else none := by
  unfold string front
  cases lead text with
  | finished => rfl
  | next c rest shorter =>
      simp only [Option.bind_some]
      split
      · exact Read.outcome_pass (fun _ => rfl) fun _ => rfl
      · rfl

theorem outcome_boolean (text : List Char) :
    Read.outcome (boolean text) = (front text).bind fun head =>
      if head.1 = 't' then
        (Scan.outcome (word ['r', 'u', 'e'] head.2)).map fun found => (true, found.2)
      else if head.1 = 'f' then
        (Scan.outcome (word ['a', 'l', 's', 'e'] head.2)).map fun found => (false, found.2)
      else none := by
  unfold boolean front
  cases lead text with
  | finished => rfl
  | next c rest shorter =>
      simp only [Option.bind_some]
      split
      · cases word ['r', 'u', 'e'] rest <;> rfl
      · split
        · cases word ['a', 'l', 's', 'e'] rest <;> rfl
        · rfl

theorem outcome_optional (reader : Reader α) (text : List Char) :
    Read.outcome (optional reader text) = (front text).bind fun head =>
      if head.1 = 'n' then
        (Scan.outcome (word ['u', 'l', 'l'] head.2)).map fun found => (none, found.2)
      else (Read.outcome (reader text)).map fun read => (some read.1, read.2) := by
  unfold optional front
  cases lead text with
  | finished => rfl
  | next c rest shorter =>
      simp only [Option.bind_some]
      split
      · cases word ['u', 'l', 'l'] rest <;> rfl
      · exact Read.outcome_map some (fun _ => rfl) fun _ => rfl

/-! ## Lists -/

/-- The outcome of looking for another element of a list: whether there is one. -/
def NextElement.outcome (result : Except Fault (NextElement text)) : Option (Bool × List Char) :=
  match result with
  | .ok (.closed bracket) => some (false, bracket.rest)
  | .ok (.element start) => some (true, start.rest)
  | .error _ => none

theorem outcome_nextElement (first : Bool) (text : List Char) :
    NextElement.outcome (nextElement first text) = (front text).bind fun head =>
      if head.1 = ']' then some (false, head.2)
      else if first then some (true, text)
      else if head.1 = ',' then (front head.2).bind fun next =>
        if next.1 = ']' then none else some (true, head.2)
      else none := by
  unfold nextElement
  rw [front]
  cases lead text with
  | finished => rfl
  | next c rest shorter =>
      simp only [Option.bind_some]
      split
      · rfl
      · split
        · rfl
        · split
          · rw [front]
            cases lead rest with
            | finished => rfl
            | next d behind further =>
                simp only [Option.bind_some]
                split <;> rfl
          · rfl

theorem outcome_elements (element : Reader α) (first : Bool) (text : List Char) :
    Read.outcome (elements element first text) =
      (NextElement.outcome (nextElement first text)).bind fun next =>
        if next.1 then (Read.outcome (element next.2)).bind fun read =>
          (Read.outcome (elements element false read.2)).map fun tail => (read.1 :: tail.1, tail.2)
        else some ([], next.2) := by
  rw [elements]
  cases nextElement first text with
  | error fault => rfl
  | ok next =>
      cases next with
      | closed bracket => rfl
      | element start =>
          exact Read.outcome_bind fun read =>
            Read.outcome_map (read.value :: ·) (fun _ => rfl) fun _ => rfl

theorem outcome_list (element : Reader α) (text : List Char) :
    Read.outcome (list element text) = (front text).bind fun head =>
      if head.1 = '[' then Read.outcome (elements element true head.2) else none := by
  unfold list front
  cases lead text with
  | finished => rfl
  | next c rest shorter =>
      simp only [Option.bind_some]
      split
      · exact Read.outcome_pass (fun _ => rfl) fun _ => rfl
      · rfl

/-! ## Maps -/

/-- The outcome of looking for another member of an object: its key, if there is one. -/
def NextKey.outcome (result : Except Fault (NextKey text)) : Option (Option String × List Char) :=
  match result with
  | .ok (.closed brace) => some (none, brace.rest)
  | .ok (.key name) => some (some name.value, name.rest)
  | .error _ => none

theorem outcome_nextKey (first : Bool) (text : List Char) :
    NextKey.outcome (nextKey first text) = (front text).bind fun head =>
      if head.1 = '\x7d' then some (none, head.2)
      else if first then
        if head.1 = '"' then
          (Read.outcome (stringTail head.2)).map fun name => (some name.1, name.2)
        else none
      else if head.1 = ',' then (front head.2).bind fun next =>
        if next.1 = '"' then
          (Read.outcome (stringTail next.2)).map fun name => (some name.1, name.2)
        else none
      else none := by
  unfold nextKey
  rw [front]
  cases lead text with
  | finished => rfl
  | next c rest shorter =>
      simp only [Option.bind_some]
      split
      · rfl
      · split
        · split
          · cases stringTail rest <;> rfl
          · rfl
        · split
          · rw [front]
            cases lead rest with
            | finished => rfl
            | next d behind further =>
                simp only [Option.bind_some]
                split
                · cases stringTail behind <;> rfl
                · split <;> rfl
          · rfl

theorem outcome_colon (text : List Char) :
    Read.outcome (colon text) = (front text).bind fun head =>
      if head.1 = ':' then some ((), head.2) else none := by
  unfold colon front
  cases lead text with
  | finished => rfl
  | next c rest shorter =>
      simp only [Option.bind_some]
      split <;> rfl

theorem outcome_memberValue (value : Reader α) (text : List Char) :
    Read.outcome (memberValue value text) =
      (Read.outcome (colon text)).bind fun passed => Read.outcome (value passed.2) := by
  exact Read.outcome_bind fun _ => Read.outcome_pass (fun _ => rfl) fun _ => rfl

theorem outcome_members (value : Reader α) (first : Bool) (kept : OrderedMap String α)
    (text : List Char) :
    Read.outcome (members value first kept text) =
      (NextKey.outcome (nextKey first text)).bind fun next =>
        match next.1 with
        | none => some (kept, next.2)
        | some name => (Read.outcome (memberValue value next.2)).bind fun read =>
            Read.outcome (members value false (kept.insert name read.1) read.2) := by
  rw [members]
  cases nextKey first text with
  | error fault => rfl
  | ok next =>
      cases next with
      | closed brace => rfl
      | key name =>
          exact Read.outcome_bind fun _ => Read.outcome_pass (fun _ => rfl) fun _ => rfl

theorem outcome_map (value : Reader α) (text : List Char) :
    Read.outcome (map value text) = (front text).bind fun head =>
      if head.1 = '\x7b' then Read.outcome (members value true ∅ head.2) else none := by
  unfold map front
  cases lead text with
  | finished => rfl
  | next c rest shorter =>
      simp only [Option.bind_some]
      split
      · exact Read.outcome_pass (fun _ => rfl) fun _ => rfl
      · rfl

/-! ## Records -/

theorem outcome_namedFields (fields : List (Field ρ)) (given : List String) (first : Bool)
    (record : ρ) (text : List Char) :
    Read.outcome (namedFields fields given first record text) =
      (NextKey.outcome (nextKey first text)).bind fun next =>
        match next.1 with
        | none => some (record, next.2)
        | some name =>
            match fields.find? (·.name = name) with
            | some field =>
                if name ∈ given then none
                else (Read.outcome (memberValue field.read next.2)).bind fun read =>
                  Read.outcome (namedFields fields (name :: given) false (read.1 record) read.2)
            | none => (Read.outcome (memberValue skipValue next.2)).bind fun skipped =>
                Read.outcome (namedFields fields given false record skipped.2) := by
  rw [namedFields]
  cases nextKey first text with
  | error fault => rfl
  | ok next =>
      cases next with
      | closed brace => rfl
      | key name =>
          change Read.outcome (match fields.find? (·.name = name.value) with
            | some _ => _
            | none => _) = match fields.find? (·.name = name.value) with
            | some _ => _
            | none => _
          cases fields.find? (·.name = name.value) with
          | none => exact Read.outcome_bind fun _ => Read.outcome_pass (fun _ => rfl) fun _ => rfl
          | some field =>
              simp only
              split
              · rfl
              · exact Read.outcome_bind fun _ => Read.outcome_pass (fun _ => rfl) fun _ => rfl

theorem outcome_closeFields (text : List Char) :
    Read.outcome (closeFields text) = (front text).bind fun head =>
      if head.1 = ']' then some ((), head.2) else none := by
  unfold closeFields
  rw [front]
  cases lead text with
  | finished => rfl
  | next c rest shorter =>
      simp only [Option.bind_some]
      split
      · rfl
      · split
        · cases lead rest <;> rfl
        · rfl

theorem outcome_listedFields_nil (first : Bool) (record : ρ) (text : List Char) :
    Read.outcome (listedFields [] first record text) =
      (Read.outcome (closeFields text)).map fun closed => (record, closed.2) := by
  rw [listedFields]
  exact Read.outcome_map (fun _ => record) (fun _ => rfl) fun _ => rfl

theorem outcome_listedFields_cons (field : Field ρ) (fields : List (Field ρ)) (first : Bool)
    (record : ρ) (text : List Char) :
    Read.outcome (listedFields (field :: fields) first record text) =
      (NextElement.outcome (nextElement first text)).bind fun next =>
        if next.1 then (Read.outcome (field.read next.2)).bind fun read =>
          Read.outcome (listedFields fields false (read.1 record) read.2)
        else some (record, next.2) := by
  rw [listedFields]
  cases nextElement first text with
  | error fault => rfl
  | ok next =>
      cases next with
      | closed bracket => rfl
      | element start =>
          exact Read.outcome_bind fun _ => Read.outcome_pass (fun _ => rfl) fun _ => rfl

theorem outcome_record (wanted : Wanted) (fields : List (Field ρ)) (initial : ρ)
    (text : List Char) :
    Read.outcome (record wanted fields initial text) = (front text).bind fun head =>
      if head.1 = '\x7b' then Read.outcome (namedFields fields [] true initial head.2)
      else if head.1 = '[' then Read.outcome (listedFields fields true initial head.2)
      else none := by
  unfold record front
  cases lead text with
  | finished => rfl
  | next c rest shorter =>
      simp only [Option.bind_some]
      split
      · exact Read.outcome_pass (fun _ => rfl) fun _ => rfl
      · split
        · exact Read.outcome_pass (fun _ => rfl) fun _ => rfl
        · rfl

end PartDefs.Json
