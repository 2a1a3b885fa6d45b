import PartDefs.Proofs.Json.Value

/-!
# Skipped values

A value that nobody wants is passed over, however it is spelled, whatever it is and however deep it
nests.  The readers of the parts of a value are followed one by one; a value inside open brackets
leaves the frames around it as they were.
-/

namespace PartDefs.Json

variable {σ : Type} {text rest : List Char}

/-! ## Space and first characters -/

theorem Space.front_eq (space : Space text rest) : front text = front rest := by
  obtain ⟨blank, rfl, blanks⟩ := space
  induction blank with
  | nil => rfl
  | cons c blank ih =>
      obtain ⟨here, later⟩ := List.forall_mem_cons.1 blanks
      rw [List.cons_append, front_cons_of_isSpace here, ih later]

/-- What stands first behind space is found there. -/
theorem Space.front_cons {c : Char} (space : Space text (c :: rest)) (token : isSpace c = false) :
    front text = some (c, rest) := by
  rw [space.front_eq, front_cons_of_not_isSpace token]

theorem isSpace_eq_false_of_isDigit {c : Char} (digit : c.isDigit = true) : isSpace c = false := by
  cases space : isSpace c with
  | false => rfl
  | true =>
      simp only [isSpace, Bool.or_eq_true, beq_iff_eq] at space
      rcases space with ((rfl | rfl) | rfl) | rfl <;> simp at digit

/-- How the spellings of a value begin, space aside. -/
def Value.Opening : Value σ → Char → Prop
  | .null, c => c = 'n'
  | .boolean true, c => c = 't'
  | .boolean false, c => c = 'f'
  | .number _, c => c = '-' ∨ c.isDigit = true
  | .string _, c => c = '"'
  | .array _, c => c = '['
  | .object _, c => c = '\x7b'

theorem Numeral.exists_chars_eq_cons (numeral : Numeral) :
    ∃ c behind, numeral.chars = c :: behind ∧ (c = '-' ∨ c.isDigit = true) := by
  rw [chars]
  split
  · exact ⟨_, _, rfl, .inl rfl⟩
  · exact ⟨_, _, rfl, .inr (numeral.whole.decimal _ List.mem_cons_self)⟩

/-- No value begins with a mark of another kind. -/
theorem Value.Opening.ne {value : Value σ} {c mark : Char} (opening : value.Opening c)
    (foreign : mark ∈ [',', ']', '\x7d', ':']) : c ≠ mark := by
  rintro rfl
  have notDigit : c.isDigit = false := by
    revert foreign
    simp only [List.mem_cons, List.not_mem_nil, or_false]
    rintro (rfl | rfl | rfl | rfl) <;> rfl
  match value with
  | .number _ =>
      rcases opening with rfl | digit
      · simp at foreign
      · rw [notDigit] at digit
        cases digit
  | .null => cases opening; simp at foreign
  | .boolean true => cases opening; simp at foreign
  | .boolean false => cases opening; simp at foreign
  | .string _ => cases opening; simp at foreign
  | .array _ => cases opening; simp at foreign
  | .object _ => cases opening; simp at foreign

variable [Lettered σ]

/-- A spelling begins as its value tells. -/
theorem Spells.exists_front {value : Value σ} (spelled : Spells text value rest) :
    ∃ c behind, front text = some (c, behind) ∧ value.Opening c := by
  cases spelled with
  | null space => exact ⟨_, _, space.front_cons (by decide), rfl⟩
  | yes space => exact ⟨_, _, space.front_cons (by decide), rfl⟩
  | no space => exact ⟨_, _, space.front_cons (by decide), rfl⟩
  | @number _ _ numeral space _ =>
      obtain ⟨c, behind, chars, opening⟩ := numeral.exists_chars_eq_cons
      rw [chars, List.cons_append] at space
      refine ⟨c, _, space.front_cons ?_, opening⟩
      rcases opening with rfl | digit
      · decide
      · exact isSpace_eq_false_of_isDigit digit
  | string space _ => exact ⟨_, _, space.front_cons (by decide), rfl⟩
  | array space _ => exact ⟨_, _, space.front_cons (by decide), rfl⟩
  | object space _ => exact ⟨_, _, space.front_cons (by decide), rfl⟩

/-! ## Numbers -/

theorem startsWithDigit_eq_false_of_endsNumber (ends : EndsNumber rest) :
    startsWithDigit rest = false := by
  cases rest with
  | nil => rfl
  | cons c rest =>
      cases digit : c.isDigit with
      | false => exact digit
      | true =>
          rcases ends c rfl with space | rfl | rfl | rfl
          · rw [isSpace_eq_false_of_isDigit digit] at space
            cases space
          all_goals simp at digit

/-- A run of digits is taken as a whole. -/
theorem rest_digits {run : List Char} (decimal : ∀ c ∈ run, c.isDigit = true)
    (stop : startsWithDigit rest = false) : (digits (run ++ rest)).rest = rest := by
  simp only [digits]
  rw [List.dropWhile_append_of_pos decimal]
  cases rest with
  | nil => rfl
  | cons c rest =>
      have notDigit : ¬c.isDigit = true := Bool.eq_false_iff.1 stop
      rw [List.dropWhile_cons_of_neg notDigit]

theorem outcome_skipExponentTail (run : Digits) (stop : startsWithDigit rest = false) :
    Scan.outcome (skipExponentTail (run.chars ++ rest)) = some ((), rest) := by
  have starts : startsWithDigit (run.chars ++ rest) = true :=
    run.decimal run.first List.mem_cons_self
  rw [skipExponentTail, if_pos starts]
  exact congrArg (fun behind => some ((), behind)) (rest_digits run.decimal stop)

theorem outcome_skipExponent_exponent (exponent : Exponent) (stop : startsWithDigit rest = false) :
    Scan.outcome (skipExponent (exponent.chars ++ rest)) = some ((), rest) := by
  have mark : isExponentMark exponent.mark = true := by
    rcases exponent.isMark with same | same <;> simp [isExponentMark, same]
  have part : Scan.outcome
      (skipExponentPart (exponent.sign.toList ++ exponent.digits.chars ++ rest)) =
        some ((), rest) := by
    have tail := outcome_skipExponentTail exponent.digits stop
    cases sign : exponent.sign with
    | none =>
        have notSign : ¬isSign exponent.digits.first = true := by
          have digit := exponent.digits.decimal _ List.mem_cons_self
          intro sign
          simp only [isSign, Bool.or_eq_true, beq_iff_eq] at sign
          rcases sign with same | same <;> simp [same] at digit
        rw [Option.toList_none, List.nil_append, ← tail]
        simp only [Digits.chars, List.cons_append, skipExponentPart, if_neg notSign]
    | some c =>
        have isSign : isSign c = true := by
          rcases exponent.isSign c sign with rfl | rfl <;> rfl
        rw [← tail]
        simp only [Option.toList_some, List.cons_append, List.nil_append, skipExponentPart,
          if_pos isSign]
        cases skipExponentTail (exponent.digits.chars ++ rest) <;> rfl
  rw [← part]
  simp only [Exponent.chars, List.cons_append, skipExponent, if_pos mark]
  cases skipExponentPart (exponent.sign.toList ++ exponent.digits.chars ++ rest) <;> rfl

theorem outcome_skipFraction_point (starts : startsWithDigit text = true) :
    Scan.outcome (skipFraction ('.' :: text)) = Scan.outcome (skipExponent (digits text).rest) := by
  simp only [skipFraction, if_true, if_pos starts]
  cases skipExponent (digits text).rest <;> rfl

theorem outcome_skipNumber_zero (stop : startsWithDigit text = false) :
    Read.outcome (skipNumber ('0' :: text)) = Scan.outcome (skipFraction text) := by
  simp only [skipNumber, if_true, stop]
  cases skipFraction text <;> rfl

theorem outcome_skipNumber_digit {c : Char} (digit : c.isDigit = true) (other : c ≠ '0') :
    Read.outcome (skipNumber (c :: text)) = Scan.outcome (skipFraction (digits text).rest) := by
  simp only [skipNumber, if_neg other, if_pos digit]
  cases skipFraction (digits text).rest <;> rfl

/-- What ends a number goes on neither with an exponent nor with decimal places. -/
theorem not_mark_of_endsNumber {c : Char} (ends : EndsNumber (c :: rest)) :
    isExponentMark c = false ∧ c ≠ '.' := by
  rcases ends c rfl with space | rfl | rfl | rfl
  · simp only [isSpace, Bool.or_eq_true, beq_iff_eq] at space
    rcases space with ((rfl | rfl) | rfl) | rfl <;> decide
  all_goals decide

namespace Numeral

variable (numeral : Numeral)

theorem startsWithDigit_exponentChars (ends : EndsNumber rest) :
    startsWithDigit (numeral.exponentChars ++ rest) = false := by
  rw [exponentChars]
  cases numeral.exponent with
  | none => exact startsWithDigit_eq_false_of_endsNumber ends
  | some exponent =>
      simp only [Option.elim_some, Exponent.chars, List.cons_append, startsWithDigit]
      rcases exponent.isMark with same | same <;> rw [same] <;> decide

theorem startsWithDigit_behindWhole (ends : EndsNumber rest) :
    startsWithDigit (numeral.behindWhole ++ rest) = false := by
  rw [behindWhole]
  cases numeral.fraction with
  | none => exact numeral.startsWithDigit_exponentChars ends
  | some places => exact (by decide : Char.isDigit '.' = false)

theorem outcome_skipExponent (ends : EndsNumber rest) :
    Scan.outcome (skipExponent (numeral.exponentChars ++ rest)) = some ((), rest) := by
  rw [exponentChars]
  cases numeral.exponent with
  | some exponent =>
      exact outcome_skipExponent_exponent exponent (startsWithDigit_eq_false_of_endsNumber ends)
  | none =>
      cases rest with
      | nil => rfl
      | cons c rest =>
          have other : ¬isExponentMark c = true :=
            Bool.eq_false_iff.1 (not_mark_of_endsNumber ends).1
          simp only [Option.elim_none, List.nil_append, skipExponent, if_neg other]
          rfl

/-- Without decimal places an exponent is looked for at once. -/
theorem skipFraction_exponentChars (ends : EndsNumber rest) :
    skipFraction (numeral.exponentChars ++ rest) =
      skipExponent (numeral.exponentChars ++ rest) := by
  rw [exponentChars]
  cases numeral.exponent with
  | some exponent =>
      have other : exponent.mark ≠ '.' := by
        rcases exponent.isMark with same | same <;> simp [same]
      simp only [Option.elim_some, Exponent.chars, List.cons_append, skipFraction, if_neg other]
  | none =>
      cases rest with
      | nil => rfl
      | cons c rest =>
          simp only [Option.elim_none, List.nil_append, skipFraction,
            if_neg (not_mark_of_endsNumber ends).2]

theorem outcome_skipFraction (ends : EndsNumber rest) :
    Scan.outcome (skipFraction (numeral.behindWhole ++ rest)) = some ((), rest) := by
  rw [behindWhole]
  cases numeral.fraction with
  | none =>
      rw [Option.elim_none, List.nil_append, numeral.skipFraction_exponentChars ends]
      exact numeral.outcome_skipExponent ends
  | some places =>
      have starts : startsWithDigit (places.chars ++ (numeral.exponentChars ++ rest)) = true :=
        places.decimal places.first List.mem_cons_self
      have behind : (digits (places.chars ++ (numeral.exponentChars ++ rest))).rest = _ :=
        rest_digits places.decimal (numeral.startsWithDigit_exponentChars ends)
      rw [Option.elim_some, List.cons_append, List.cons_append, List.append_assoc,
        outcome_skipFraction_point starts, behind]
      exact numeral.outcome_skipExponent ends

theorem outcome_skipNumber (ends : EndsNumber rest) :
    Read.outcome (skipNumber (numeral.unsigned ++ rest)) = some ((), rest) := by
  have tail := numeral.outcome_skipFraction ends
  have stop := numeral.startsWithDigit_behindWhole ends
  rw [unsigned, Digits.chars, List.cons_append, List.cons_append, List.append_assoc]
  by_cases zero : numeral.whole.first = '0'
  · rw [numeral.tidy zero, zero, List.nil_append, outcome_skipNumber_zero stop, tail]
  · have others : ∀ c ∈ numeral.whole.others, c.isDigit = true := fun c member =>
      numeral.whole.decimal c (List.mem_cons_of_mem _ member)
    rw [outcome_skipNumber_digit (numeral.whole.decimal _ List.mem_cons_self) zero,
      rest_digits others stop, tail]

end Numeral

/-! ## Values within frames -/

/-- The values that are left of open frames are skipped from where a scan stops. -/
def resume (found : List Frame × List Char) : Option (Unit × List Char) :=
  match found.1 with
  | [] => some ((), found.2)
  | frame :: frames => Read.outcome (skipWithin (frame :: frames) found.2)

/-- All that is left of open frames is skipped from behind a value. -/
def skipBehind (frames : List Frame) (text : List Char) : Option (Unit × List Char) :=
  (Scan.outcome (behindValue frames text)).bind resume

theorem skipBehind_nil (text : List Char) : skipBehind [] text = some ((), text) :=
  rfl

theorem outcome_behindValue_cons (frame : Frame) (frames : List Frame) (text : List Char) :
    Scan.outcome (behindValue (frame :: frames) text) = (front text).bind fun head =>
      if head.1 = frame.closing then Scan.outcome (behindValue frames head.2)
      else if head.1 = ',' then
        (Scan.outcome (skipMemberStart frame head.2)).map fun start => (frame :: frames, start.2)
      else none := by
  rw [behindValue, front]
  cases lead text with
  | finished => rfl
  | next c rest shorter =>
      simp only [Option.bind_some]
      split
      · cases behindValue frames rest <;> rfl
      · split
        · cases skipMemberStart frame rest <;> rfl
        · rfl

theorem outcome_behindOpening (frame : Frame) (frames : List Frame) (text : List Char) :
    Scan.outcome (behindOpening frame frames text) = (front text).bind fun head =>
      if head.1 = frame.closing then Scan.outcome (behindValue frames head.2)
      else (Scan.outcome (skipMemberStart frame text)).map fun start =>
        (frame :: frames, start.2) := by
  unfold behindOpening
  rw [front]
  cases lead text with
  | finished => rfl
  | next c rest shorter =>
      simp only [Option.bind_some]
      split
      · cases behindValue frames rest <;> rfl
      · cases skipMemberStart frame text <;> rfl

theorem outcome_skipKey (text : List Char) :
    Read.outcome (skipKey text) = (front text).bind fun head =>
      if head.1 = '"' then
        (Read.outcome (skipString head.2)).bind fun key => Read.outcome (colon key.2)
      else none := by
  unfold skipKey front
  cases lead text with
  | finished => rfl
  | next c rest shorter =>
      simp only [Option.bind_some]
      split
      · exact Read.outcome_bind fun _ => Read.outcome_pass (fun _ => rfl) fun _ => rfl
      · rfl

theorem outcome_skipWithin (frames : List Frame) (text : List Char) :
    Read.outcome (skipWithin frames text) = (front text).bind fun head =>
      (Scan.outcome (behindFirst frames head.1 head.2)).bind resume := by
  rw [skipWithin, front]
  cases lead text with
  | finished => rfl
  | next c rest shorter =>
      simp only [Option.bind_some]
      cases behindFirst frames c rest with
      | error fault => rfl
      | ok scan =>
          obtain ⟨opened, behind, bound⟩ := scan
          cases opened with
          | nil => rfl
          | cons frame frames => exact Read.outcome_pass (fun _ => rfl) fun _ => rfl

theorem outcome_behindFirst_scalar {c : Char} (scalar : Frame.ofOpening? c = none)
    (frames : List Frame) (text : List Char) :
    Scan.outcome (behindFirst frames c text) = (Scan.outcome (skipScalar c text)).bind fun found =>
      Scan.outcome (behindValue frames found.2) := by
  rw [behindFirst, scalar]
  cases skipScalar c text with
  | error fault => rfl
  | ok found =>
      change Scan.outcome ((behindValue frames found.rest).bind _) =
        Scan.outcome (behindValue frames found.rest)
      cases behindValue frames found.rest <;> rfl

/-! ## Scalars -/

theorem outcome_word (letters rest : List Char) :
    Scan.outcome (word letters (letters ++ rest)) = some ((), rest) := by
  have leaves := word_append letters rest
  cases found : word letters (letters ++ rest) with
  | error fault =>
      rw [found] at leaves
      cases leaves
  | ok scan =>
      rw [found] at leaves
      exact congrArg (fun behind => some ((), behind)) (Except.ok.inj leaves)

theorem outcome_skipScalar_digit {c : Char} (digit : c.isDigit = true) (text : List Char) :
    Scan.outcome (skipScalar c text) = Read.outcome (skipNumber (c :: text)) := by
  unfold skipScalar
  split
  case h_6 =>
    rw [if_pos digit]
    cases skipNumber (c :: text) <;> rfl
  all_goals simp at digit

theorem outcome_skipScalar_minus (text : List Char) :
    Scan.outcome (skipScalar '-' text) = Read.outcome (skipNumber text) := by
  simp only [skipScalar]
  cases skipNumber text <;> rfl

theorem outcome_skipScalar_quote (text : List Char) :
    Scan.outcome (skipScalar '"' text) = Read.outcome (skipString text) := by
  simp only [skipScalar]
  cases skipString text <;> rfl

theorem ofOpening?_of_isDigit {c : Char} (digit : c.isDigit = true) :
    Frame.ofOpening? c = none := by
  unfold Frame.ofOpening?
  split
  · simp at digit
  · simp at digit
  · rfl

/-- A scalar is passed over, and what is left of the frames follows. -/
theorem outcome_skipWithin_scalar {c : Char} {behind : List Char}
    (head : front text = some (c, behind)) (closed : Frame.ofOpening? c = none)
    (scalar : Scan.outcome (skipScalar c behind) = some ((), rest)) (frames : List Frame) :
    Read.outcome (skipWithin frames text) = skipBehind frames rest := by
  rw [outcome_skipWithin, head, Option.bind_some, outcome_behindFirst_scalar closed, scalar,
    Option.bind_some]
  rfl

theorem outcome_skipWithin_number {numeral : Numeral} (space : Space text (numeral.chars ++ rest))
    (ends : EndsNumber rest) (frames : List Frame) :
    Read.outcome (skipWithin frames text) = skipBehind frames rest := by
  have number := numeral.outcome_skipNumber ends
  rw [Numeral.chars] at space
  split at space
  · refine outcome_skipWithin_scalar (space.front_cons (by decide)) rfl ?_ frames
    exact (outcome_skipScalar_minus _).trans number
  · have first : numeral.whole.first.isDigit = true := numeral.whole.decimal _ List.mem_cons_self
    refine outcome_skipWithin_scalar (space.front_cons (isSpace_eq_false_of_isDigit first))
      (ofOpening?_of_isDigit first) ?_ frames
    rw [outcome_skipScalar_digit first]
    exact number

/-! ## Values of any kind -/

theorem outcome_skipWithin_opening {c : Char} {frame : Frame} {inner : List Char}
    (head : front text = some (c, inner)) (opening : Frame.ofOpening? c = some frame)
    (frames : List Frame) :
    Read.outcome (skipWithin frames text) =
      (Scan.outcome (behindOpening frame frames inner)).bind resume := by
  rw [outcome_skipWithin, head, Option.bind_some, behindFirst, opening]

/-- A key is passed over together with its colon. -/
theorem Letters.outcome_skipMemberStart {inner key afterKey given : List Char}
    {spelled : List Nat} (letters : Letters key spelled afterKey) (quote : Space inner ('"' :: key))
    (colon : Space afterKey (':' :: given)) :
    Scan.outcome (skipMemberStart .object inner) = some ((), given) := by
  have passed : Read.outcome (skipKey inner) = some ((), given) := by
    rw [outcome_skipKey, quote.front_cons (by decide), Option.bind_some, if_pos rfl,
      letters.outcome_skipString, Option.bind_some, outcome_colon, colon.front_cons (by decide),
      Option.bind_some, if_pos rfl]
  rw [← passed]
  simp only [skipMemberStart]
  cases skipKey inner <;> rfl

mutual

/-- A value within frames is passed over, and what is left of the frames follows. -/
theorem Spells.outcome_skipWithin {text rest : List Char} {value : Value σ} (frames : List Frame) :
    Spells text value rest → Read.outcome (skipWithin frames text) = skipBehind frames rest
  | .null space =>
      outcome_skipWithin_scalar (space.front_cons (by decide)) rfl (outcome_word _ _) frames
  | .yes space =>
      outcome_skipWithin_scalar (space.front_cons (by decide)) rfl (outcome_word _ _) frames
  | .no space =>
      outcome_skipWithin_scalar (space.front_cons (by decide)) rfl (outcome_word _ _) frames
  | .number space ends => outcome_skipWithin_number space ends frames
  | .string space letters => by
      refine outcome_skipWithin_scalar (space.front_cons (by decide)) rfl ?_ frames
      rw [outcome_skipScalar_quote, letters.outcome_skipString]
  | .array space items => by
      rw [outcome_skipWithin_opening (space.front_cons (by decide)) rfl]
      exact items.skipOpened frames
  | .object space members => by
      rw [outcome_skipWithin_opening (space.front_cons (by decide)) rfl]
      exact members.skipOpened frames

theorem SpellsItems.skipOpened {text rest : List Char} {items : List (Value σ)}
    (frames : List Frame) : SpellsItems true text items rest →
    (Scan.outcome (behindOpening .array frames text)).bind resume = skipBehind frames rest
  | .close space => by
      rw [outcome_behindOpening, space.front_cons (by decide), Option.bind_some,
        if_pos (by rfl)]
      rfl
  | .item .first spelled later => by
      obtain ⟨c, behind, head, opening⟩ := spelled.exists_front
      rw [outcome_behindOpening, head, Option.bind_some,
        if_neg (opening.ne (by simp [Frame.closing]))]
      exact (spelled.outcome_skipWithin (.array :: frames)).trans (later.skipOn frames)

theorem SpellsItems.skipOn {text rest : List Char} {items : List (Value σ)}
    (frames : List Frame) : SpellsItems false text items rest →
    skipBehind (.array :: frames) text = skipBehind frames rest
  | .close space => by
      rw [skipBehind, outcome_behindValue_cons, space.front_cons (by decide), Option.bind_some,
        if_pos (by rfl)]
      rfl
  | .item (.later space) spelled later => by
      rw [skipBehind, outcome_behindValue_cons, space.front_cons (by decide), Option.bind_some,
        if_neg (by simp [Frame.closing]), if_pos rfl]
      exact (spelled.outcome_skipWithin (.array :: frames)).trans (later.skipOn frames)

theorem SpellsMembers.skipOpened {text rest : List Char} {members : List (σ × Value σ)}
    (frames : List Frame) : SpellsMembers true text members rest →
    (Scan.outcome (behindOpening .object frames text)).bind resume = skipBehind frames rest
  | .close space => by
      rw [outcome_behindOpening, space.front_cons (by decide), Option.bind_some,
        if_pos (by rfl)]
      rfl
  | .member .first quote letters colon spelled later => by
      rw [outcome_behindOpening, quote.front_cons (by decide), Option.bind_some,
        if_neg (by simp [Frame.closing]), letters.outcome_skipMemberStart quote colon]
      exact (spelled.outcome_skipWithin (.object :: frames)).trans (later.skipOn frames)

theorem SpellsMembers.skipOn {text rest : List Char} {members : List (σ × Value σ)}
    (frames : List Frame) : SpellsMembers false text members rest →
    skipBehind (.object :: frames) text = skipBehind frames rest
  | .close space => by
      rw [skipBehind, outcome_behindValue_cons, space.front_cons (by decide), Option.bind_some,
        if_pos (by rfl)]
      rfl
  | .member (.later space) quote letters colon spelled later => by
      rw [skipBehind, outcome_behindValue_cons, space.front_cons (by decide), Option.bind_some,
        if_neg (by simp [Frame.closing]), if_pos rfl, letters.outcome_skipMemberStart quote colon]
      exact (spelled.outcome_skipWithin (.object :: frames)).trans (later.skipOn frames)

end

/-- Every value is skipped, however it is spelled. -/
theorem Spells.outcome_skipValue {value : Value σ} (spelled : Spells text value rest) :
    Read.outcome (skipValue text) = some ((), rest) :=
  (spelled.outcome_skipWithin []).trans (skipBehind_nil rest)

end PartDefs.Json
