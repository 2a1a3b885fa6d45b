import Mathlib.Algebra.GroupWithZero.Nat
import Mathlib.Data.List.Forall2
import Mathlib.Data.List.TakeWhile
import PartDefs.CommandLine.Arguments
import PartDefs.Proofs.Text.Lines

/-!
# Spellings of a call

A call asks for a path, perhaps for a place of its output and for a choice of colours, and for more
detail any number of times.  Each of these wishes has several spellings.  Whatever spellings are
chosen and in whatever order they stand, the call is read as what it asks for: no spelling takes
anything from its neighbours, for the slot that is pending is always complete when the next
spelling begins.
-/

namespace PartDefs.CommandLine

/-- The word for a choice. -/
def ColorChoice.word : ColorChoice → String
  | auto => "auto"
  | always => "always"
  | never => "never"

@[simp]
theorem ColorChoice.ofWord?_word (choice : ColorChoice) : ofWord? choice.word = some choice := by
  cases choice <;> rfl

/-- Something that a call asks for. -/
inductive Wish where
  | path (path : String)
  | output (file : String)
  | color (choice : ColorChoice)
  /-- More detail, so many times. -/
  | detail (times : Nat)

namespace Wish

/-- The path that is asked for. -/
def path? : Wish → Option String
  | path asked => some asked
  | _ => none

/-- The place of the output that is asked for. -/
def output? : Wish → Option String
  | output asked => some asked
  | _ => none

/-- The choice of colours that is asked for. -/
def color? : Wish → Option ColorChoice
  | color asked => some asked
  | _ => none

/-- How many times more detail is asked for. -/
def times : Wish → Nat
  | detail asked => asked
  | _ => 0

end Wish

/-- A text that does not look like a flag. -/
def IsBare (text : String) : Prop :=
  text.toList.head? = some '-' → text = "-"

theorem IsBare.rest_eq_nil {text : String} {rest : List Char} (bare : IsBare text)
    (letters : text.toList = '-' :: rest) : rest = [] := by
  have dash := bare (by rw [letters]; rfl)
  simpa [dash] using letters.symm

theorem IsBare.word (choice : ColorChoice) : IsBare choice.word := by
  cases choice <;> simp [IsBare, ColorChoice.word]

/-- Arguments that spell a wish. -/
inductive Spells (command : Command) : Wish → List String → Prop where
  | path {path : String} :
      path ≠ "" → IsBare path → Spells command (.path path) [path]
  | outputShort {file : String} :
      command.takesOutput = true → file ≠ "" → IsBare file →
        Spells command (.output file) ["-o", file]
  | outputAttached {file : String} :
      command.takesOutput = true → file ≠ "" → file.toList.head? ≠ some '=' →
        Spells command (.output file) ["-o" ++ file]
  | outputEqual {file : String} :
      command.takesOutput = true → file ≠ "" → Spells command (.output file) ["-o=" ++ file]
  | outputLong {file : String} :
      command.takesOutput = true → file ≠ "" → IsBare file →
        Spells command (.output file) ["--output", file]
  | outputLongEqual {file : String} :
      command.takesOutput = true → file ≠ "" → Spells command (.output file) ["--output=" ++ file]
  | color (choice : ColorChoice) : Spells command (.color choice) ["--color", choice.word]
  | colorEqual (choice : ColorChoice) :
      Spells command (.color choice) ["--color=" ++ choice.word]
  | detail (more : Nat) :
      Spells command (.detail (more + 1)) ["-" ++ String.ofList (List.replicate (more + 1) 'v')]

/-! ## Forms of arguments -/

section Forms

variable {command : Command} {progress : Progress} {text : String}

theorem argument_of_isBare (flags : progress.wordsOnly = false) (bare : IsBare text) :
    argument command progress text = progress.word text := by
  rw [argument, flags, if_neg Bool.false_ne_true]
  split
  · next letters => cases bare.rest_eq_nil letters
  · next letters => cases bare.rest_eq_nil letters
  · next letters => cases bare.rest_eq_nil letters
  · rfl

theorem argument_short {letter : Char} {letters : List Char} (flags : progress.wordsOnly = false)
    (split : text.toList = '-' :: letter :: letters) (other : letter ≠ '-') :
    argument command progress text = shortArgument command progress (letter :: letters) := by
  rw [argument, flags, if_neg Bool.false_ne_true, split]
  split
  · next same => simp [other] at same
  · next same => simp [other] at same
  · next same =>
      obtain ⟨rfl, rfl⟩ := List.cons.inj (List.cons.inj same).2
      rfl
  · next differs => exact absurd rfl (differs letter letters)

theorem argument_long {letters : List Char} (flags : progress.wordsOnly = false)
    (split : text.toList = '-' :: '-' :: letters) (present : letters ≠ []) :
    argument command progress text = longArgument command progress letters := by
  obtain ⟨letter, letters, rfl⟩ := List.exists_cons_of_ne_nil present
  rw [argument, flags, if_neg Bool.false_ne_true, split]
  rfl

theorem shortArgument_detail {next : Progress} (more : progress.moreVerbose = .ok next)
    (letters : List Char) :
    shortArgument command progress ('v' :: letters) = shortArgument command next letters := by
  conv_lhs => unfold shortArgument
  rw [if_pos rfl, more]

/-- What stands behind the letter of the option is its value. -/
theorem argument_outputAttached {file : String} (flags : progress.wordsOnly = false)
    (takes : command.takesOutput = true) (present : file ≠ "")
    (other : file.toList.head? ≠ some '=') :
    argument command progress ("-o" ++ file) = progress.attach .output file := by
  obtain ⟨c, rest, letters⟩ := List.exists_cons_of_ne_nil (mt String.toList_eq_nil_iff.1 present)
  have unequal : c ≠ '=' := by
    rintro rfl
    exact other (by rw [letters]; rfl)
  have whole : String.ofList (c :: rest) = file := by rw [← letters, String.ofList_toList]
  have split : ("-o" ++ file).toList = '-' :: 'o' :: c :: rest := by simp [letters]
  rw [argument_short flags split (by decide)]
  simp [shortArgument, takes, unequal, whole]

theorem argument_outputEqual {file : String} (flags : progress.wordsOnly = false)
    (takes : command.takesOutput = true) :
    argument command progress ("-o=" ++ file) = progress.attach .output file := by
  have split : ("-o=" ++ file).toList = '-' :: 'o' :: '=' :: file.toList := by simp
  rw [argument_short flags split (by decide)]
  simp [shortArgument, takes]

theorem argument_outputShort (flags : progress.wordsOnly = false)
    (takes : command.takesOutput = true) :
    argument command progress "-o" = progress.await .output := by
  have split : "-o".toList = ['-', 'o'] := by simp
  rw [argument_short flags split (by decide)]
  simp [shortArgument, takes]

variable {name : String} {slot : Slot}

theorem ne_help_of_longOption? (known : command.longOption? name = some slot) :
    name ≠ "help" := by
  rintro rfl
  simp [Command.longOption?] at known

theorem longArgument_apart (known : command.longOption? name = some slot)
    (plain : '=' ∉ name.toList) :
    longArgument command progress name.toList = progress.await slot := by
  have kept := forall_ne_of_notMem plain
  rw [longArgument, List.takeWhile_eq_self_iff.2 kept, List.dropWhile_eq_nil_iff.2 kept]
  simp only [String.ofList_toList, if_neg (ne_help_of_longOption? known), known]

theorem longArgument_attached (known : command.longOption? name = some slot)
    (plain : '=' ∉ name.toList) (value : List Char) :
    longArgument command progress (name.toList ++ '=' :: value) =
      progress.attach slot (String.ofList value) := by
  have kept := forall_ne_of_notMem plain
  rw [longArgument, List.takeWhile_append_of_pos kept, List.dropWhile_append_of_pos kept,
    List.takeWhile_cons_of_neg (by simp), List.dropWhile_cons_of_neg (by simp), List.append_nil]
  simp only [String.ofList_toList, if_neg (ne_help_of_longOption? known), known]

theorem argument_longApart (flags : progress.wordsOnly = false)
    (known : command.longOption? name = some slot) (present : name ≠ "")
    (plain : '=' ∉ name.toList) :
    argument command progress ("--" ++ name) = progress.await slot := by
  have split : ("--" ++ name).toList = '-' :: '-' :: name.toList := by simp
  rw [argument_long flags split (mt String.toList_eq_nil_iff.1 present),
    longArgument_apart known plain]

theorem argument_longAttached (flags : progress.wordsOnly = false)
    (known : command.longOption? name = some slot) (plain : '=' ∉ name.toList) (value : String) :
    argument command progress ("--" ++ name ++ "=" ++ value) = progress.attach slot value := by
  have split : ("--" ++ name ++ "=" ++ value).toList =
      '-' :: '-' :: (name.toList ++ '=' :: value.toList) := by simp
  rw [argument_long flags split (by simp), longArgument_attached known plain,
    String.ofList_toList]

end Forms

section Lists

variable {command : Command} {progress : Progress}

theorem arguments_singleton (text : String) :
    arguments command progress [text] = argument command progress text := by
  rw [arguments]
  cases argument command progress text <;> rfl

theorem arguments_append (front back : List String) :
    arguments command progress (front ++ back) =
      (arguments command progress front).bind fun next => arguments command next back := by
  induction front generalizing progress with
  | nil => rfl
  | cons text later ih =>
      rw [List.cons_append, arguments, arguments]
      cases argument command progress text with
      | error refusal => rfl
      | ok next => exact ih

theorem arguments_pair {waiting next : Progress} {option value : String}
    (read : argument command progress option = .ok waiting)
    (read' : argument command waiting value = .ok next) :
    arguments command progress [option, value] = .ok next := by
  rw [arguments, read]
  exact (arguments_singleton value).trans read'

end Lists

/-! ## Granting wishes -/

/-- The progress when a wish is granted. -/
def Progress.grant (progress : Progress) : Wish → Progress
  | .path path => { progress with path := some path }
  | .output file => { progress with output := some file }
  | .color choice => { progress with color := some choice }
  | .detail times => { progress with verbosity := min (progress.verbosity + times) maxVerbosity }

/-- Whether a wish can be granted: what can be asked for once only must not be there yet. -/
def Progress.Allows (progress : Progress) : Wish → Prop
  | .path _ => progress.path = none
  | .output _ => progress.output = none
  | .color _ => progress.color = none
  | .detail _ => True

/-- Between two spellings: once the pending slot is judged, a certain progress is made, and flags
are still told from words. -/
structure Stands (progress settled : Progress) : Prop where
  settle : progress.settle = .ok settled
  idle : settled.pending = none
  flags : progress.wordsOnly = false
  flags' : settled.wordsOnly = false

section Granting

variable {command : Command} {progress settled : Progress} {slot : Slot} {value : String}
  {wish : Wish}

theorem fill_path {path : String} (present : path ≠ "") :
    settled.fill .path path = .ok (settled.grant (.path path)) :=
  if_neg present

theorem fill_output {file : String} (free : settled.output = none) (present : file ≠ "") :
    settled.fill .output file = .ok (settled.grant (.output file)) := by
  simp [Progress.fill, free, present, Progress.grant]

theorem fill_color {choice : ColorChoice} (free : settled.color = none) :
    settled.fill .color choice.word = .ok (settled.grant (.color choice)) := by
  simp [Progress.fill, free, Progress.grant]

theorem path_of_fill {filled : Progress} (done : progress.fill slot value = .ok filled) :
    filled.path = if slot = .path then some value else progress.path := by
  cases slot with
  | path =>
      by_cases empty : value = ""
      · simp [Progress.fill, empty] at done
      · rw [fill_path empty] at done
        obtain rfl := Except.ok.inj done
        rfl
  | output =>
      rw [Progress.fill] at done
      split_ifs at done
      obtain rfl := Except.ok.inj done
      rfl
  | color =>
      rw [Progress.fill] at done
      split_ifs at done
      split at done
      · cases done
      · obtain rfl := Except.ok.inj done
        rfl

namespace Stands

theorem grant (stands : Stands progress settled) (wish : Wish) :
    Stands (settled.grant wish) (settled.grant wish) := by
  have idle := stands.idle
  have flags := stands.flags'
  cases wish <;> exact ⟨by simp [Progress.settle, Progress.grant, idle], idle, flags, flags⟩

/-- The path has been seen just if it is there when the pending slot is judged. -/
theorem hasPath_eq (stands : Stands progress settled) :
    progress.hasPath = settled.path.isSome := by
  have settle := stands.settle
  rcases pending : progress.pending with _ | ⟨slot, _ | value⟩
  · rw [Progress.settle, pending] at settle
    obtain rfl := Except.ok.inj settle
    simp [Progress.hasPath, pending]
  · rw [Progress.settle, pending] at settle
    cases settle
  · rw [Progress.settle, pending] at settle
    rw [path_of_fill settle, Progress.hasPath, pending]
    cases slot <;> simp

/-- A slot that has its value is as good as filled. -/
theorem pending (stands : Stands progress settled)
    (fills : settled.fill slot value = .ok (settled.grant wish)) :
    Stands { settled with pending := some ⟨slot, some value⟩ } (settled.grant wish) where
  settle := by
    have same : { settled with pending := none } = settled := by
      obtain ⟨path, output, color, verbosity, pending, wordsOnly⟩ := settled
      obtain rfl : pending = none := stands.idle
      rfl
    exact (congrArg (·.fill slot value) same).trans fills
  idle := (stands.grant wish).idle
  flags := stands.flags'
  flags' := (stands.grant wish).flags

theorem attach (stands : Stands progress settled)
    (fills : settled.fill slot value = .ok (settled.grant wish)) :
    ∃ next, progress.attach slot value = .ok next ∧ Stands next (settled.grant wish) := by
  refine ⟨settled.grant wish, ?_, stands.grant wish⟩
  rw [Progress.attach, stands.settle]
  exact fills

/-- An option that waits for its value takes the next word, and nothing else. -/
theorem await (command : Command) (stands : Stands progress settled) (bare : IsBare value)
    (fills : settled.fill slot value = .ok (settled.grant wish)) :
    ∃ waiting next, progress.await slot = .ok waiting ∧
      argument command waiting value = .ok next ∧ Stands next (settled.grant wish) := by
  refine ⟨{ settled with pending := some ⟨slot, none⟩ }, _, ?_, ?_, stands.pending fills⟩
  · rw [Progress.await, stands.settle]
    rfl
  · have flags : ({ settled with pending := some ⟨slot, none⟩ } : Progress).wordsOnly = false :=
      stands.flags'
    rw [argument_of_isBare flags bare, Progress.word]
    exact if_neg (by simp [stands.flags'])

theorem word (command : Command) (stands : Stands progress settled) {path : String}
    (bare : IsBare path) (present : path ≠ "") (free : settled.path = none) :
    ∃ next, argument command progress path = .ok next ∧
      Stands next (settled.grant (.path path)) := by
  refine ⟨_, ?_, stands.pending (fill_path present)⟩
  have fresh : progress.hasPath = false := by rw [stands.hasPath_eq, free]; rfl
  have taken : progress.positional path =
      .ok { settled with pending := some ⟨.path, some path⟩ } := by
    rw [Progress.positional, fresh, stands.settle]
    rfl
  rw [argument_of_isBare stands.flags bare, Progress.word]
  split
  · next slot waiting =>
      -- An option without its value would have been complained of.
      have settle := stands.settle
      rw [Progress.settle, waiting] at settle
      cases settle
  · exact taken

theorem moreVerbose (stands : Stands progress settled) :
    progress.moreVerbose = .ok (settled.grant (.detail 1)) := by
  rw [Progress.moreVerbose, stands.settle]
  rfl

theorem grant_detail (first more : Nat) :
    (settled.grant (.detail first)).grant (.detail more) =
      settled.grant (.detail (first + more)) := by
  have verbosity : min (min (settled.verbosity + first) maxVerbosity + more) maxVerbosity =
      min (settled.verbosity + (first + more)) maxVerbosity := by omega
  simp only [Progress.grant, verbosity]

/-- A bundle of flags asks for more detail once for each of its letters. -/
theorem details (command : Command) (stands : Stands progress settled) (more : Nat) :
    ∃ next, shortArgument command progress (List.replicate (more + 1) 'v') = .ok next ∧
      Stands next (settled.grant (.detail (more + 1))) := by
  induction more generalizing progress settled with
  | zero =>
      refine ⟨settled.grant (.detail 1), ?_, stands.grant _⟩
      simp [shortArgument, stands.moreVerbose]
  | succ more ih =>
      obtain ⟨next, read, stands'⟩ := ih (stands.grant (.detail 1))
      rw [grant_detail, Nat.add_comm 1] at stands'
      refine ⟨next, ?_, stands'⟩
      rw [List.replicate_succ, shortArgument_detail stands.moreVerbose]
      exact read

end Stands

theorem arguments_apart {option : String} (stands : Stands progress settled)
    (opens : argument command progress option = progress.await slot) (bare : IsBare value)
    (fills : settled.fill slot value = .ok (settled.grant wish)) :
    ∃ next, arguments command progress [option, value] = .ok next ∧
      Stands next (settled.grant wish) := by
  obtain ⟨waiting, next, awaits, read, stands'⟩ := stands.await command bare fills
  exact ⟨next, arguments_pair (opens.trans awaits) read, stands'⟩

theorem arguments_attached {text : String} (stands : Stands progress settled)
    (whole : argument command progress text = progress.attach slot value)
    (fills : settled.fill slot value = .ok (settled.grant wish)) :
    ∃ next, arguments command progress [text] = .ok next ∧
      Stands next (settled.grant wish) := by
  obtain ⟨next, attaches, stands'⟩ := stands.attach fills
  exact ⟨next, (arguments_singleton text).trans (whole.trans attaches), stands'⟩

/-- The arguments that spell a wish grant it, wherever they stand. -/
theorem arguments_of_spells {texts : List String} (spelled : Spells command wish texts)
    (stands : Stands progress settled) (allowed : settled.Allows wish) :
    ∃ next, arguments command progress texts = .ok next ∧ Stands next (settled.grant wish) := by
  have flags := stands.flags
  cases spelled with
  | @path path present bare =>
      obtain ⟨next, read, stands'⟩ := stands.word command bare present allowed
      exact ⟨next, (arguments_singleton path).trans read, stands'⟩
  | outputShort takes present bare =>
      exact arguments_apart stands (argument_outputShort flags takes) bare
        (fill_output allowed present)
  | outputAttached takes present other =>
      exact arguments_attached stands (argument_outputAttached flags takes present other)
        (fill_output allowed present)
  | outputEqual takes present =>
      exact arguments_attached stands (argument_outputEqual flags takes)
        (fill_output allowed present)
  | outputLong takes present bare =>
      have known : command.longOption? "output" = some .output := by
        simp [Command.longOption?, takes]
      exact arguments_apart stands (argument_longApart flags known (by decide) (by decide)) bare
        (fill_output allowed present)
  | @outputLongEqual file takes present =>
      have known : command.longOption? "output" = some .output := by
        simp [Command.longOption?, takes]
      exact arguments_attached stands (argument_longAttached flags known (by decide) file)
        (fill_output allowed present)
  | color choice =>
      have known : command.longOption? "color" = some .color := rfl
      exact arguments_apart stands (argument_longApart flags known (by decide) (by decide))
        (.word choice) (fill_color allowed)
  | colorEqual choice =>
      have known : command.longOption? "color" = some .color := rfl
      exact arguments_attached stands
        (argument_longAttached flags known (by decide) choice.word) (fill_color allowed)
  | detail more =>
      obtain ⟨next, read, stands'⟩ := stands.details command more
      have split : ("-" ++ String.ofList (List.replicate (more + 1) 'v')).toList =
          '-' :: 'v' :: List.replicate more 'v' := by simp [List.replicate_succ]
      rw [arguments_singleton, argument_short flags split (by decide)]
      exact ⟨next, read, stands'⟩

end Granting

/-! ## Whole calls -/

/-- What is there already and what is still wished for come to what is asked for. -/
structure Due (settled : Progress) (wishes : List Wish) (path : String) (output : Option String)
    (color : Option ColorChoice) (detail : Nat) : Prop where
  path : settled.path.toList ++ wishes.filterMap Wish.path? = [path]
  output : settled.output.toList ++ wishes.filterMap Wish.output? = output.toList
  color : settled.color.toList ++ wishes.filterMap Wish.color? = color.toList
  detail : min (settled.verbosity + (wishes.map Wish.times).sum) maxVerbosity =
    min detail maxVerbosity
  bound : settled.verbosity ≤ maxVerbosity

theorem eq_none_of_toList_append_cons {α : Type} {before asked : Option α} {here : α}
    {later : List α} (once : before.toList ++ here :: later = asked.toList) : before = none := by
  cases before with
  | none => rfl
  | some first => cases asked <;> simp at once

namespace Due

variable {settled : Progress} {wish : Wish} {wishes : List Wish} {path : String}
  {output : Option String} {color : Option ColorChoice} {detail : Nat}

theorem allows (due : Due settled (wish :: wishes) path output color detail) :
    settled.Allows wish := by
  cases wish with
  | path asked =>
      exact eq_none_of_toList_append_cons (due.path.trans (Option.toList_some path).symm)
  | output asked => exact eq_none_of_toList_append_cons due.output
  | color asked => exact eq_none_of_toList_append_cons due.color
  | detail times => trivial

/-- A wish that is granted is no longer due. -/
theorem grant (due : Due settled (wish :: wishes) path output color detail) :
    Due (settled.grant wish) wishes path output color detail := by
  have free := due.allows
  obtain ⟨paths, outputs, colors, details, bound⟩ := due
  cases wish with
  | path asked =>
      rw [show settled.path = none from free] at paths
      exact ⟨paths, outputs, colors, by simpa [Wish.times, Progress.grant] using details, bound⟩
  | output asked =>
      rw [show settled.output = none from free] at outputs
      exact ⟨paths, outputs, colors, by simpa [Wish.times, Progress.grant] using details, bound⟩
  | color asked =>
      rw [show settled.color = none from free] at colors
      exact ⟨paths, outputs, colors, by simpa [Wish.times, Progress.grant] using details, bound⟩
  | detail times =>
      refine ⟨paths, outputs, colors, ?_, Nat.min_le_right _ _⟩
      simp only [List.map_cons, List.sum_cons, Wish.times, Progress.grant] at details ⊢
      omega

/-- When nothing is due any more, the call is read as what was asked for. -/
theorem finish_eq {progress : Progress} (command : Command) (stands : Stands progress settled)
    (due : Due settled [] path output color detail) :
    finish command progress = .ok
      { command, path, output, color := color.getD .auto, verbosity := min detail 255 } := by
  obtain ⟨paths, outputs, colors, details, bound⟩ := due
  have given : settled.path = some path := by simpa using paths
  have verbosity : settled.verbosity = min detail 255 := by
    simp only [List.map_nil, List.sum_nil, maxVerbosity] at details bound
    omega
  have placed : settled.output = output := by simpa using congrArg List.head? outputs
  have chosen : settled.color = color := by simpa using congrArg List.head? colors
  rw [finish, stands.settle, ← placed, ← chosen, ← verbosity]
  simp only [bind, Except.bind, given]
  rfl

end Due

/-- From any point between two spellings, the spellings of what is due make the call complete. -/
theorem finish_arguments {command : Command} {progress settled : Progress} {wishes : List Wish}
    {pieces : List (List String)} {path : String} {output : Option String}
    {color : Option ColorChoice} {detail : Nat}
    (spelled : List.Forall₂ (Spells command) wishes pieces) (stands : Stands progress settled)
    (due : Due settled wishes path output color detail) :
    (arguments command progress pieces.flatten).bind (finish command) = .ok
      { command, path, output, color := color.getD .auto, verbosity := min detail 255 } := by
  induction spelled generalizing progress settled with
  | nil => exact due.finish_eq command stands
  | @cons wish texts wishes pieces spelled _ ih =>
      obtain ⟨next, read, stands'⟩ := arguments_of_spells spelled stands due.allows
      rw [List.flatten_cons, arguments_append, read]
      exact ih stands' due.grant

theorem parse_name (command : Command) (later : List String) :
    parse (command.name :: later) = parseCommand command later := by
  cases command <;> rfl

/-- A call is read as what it asks for, however this is spelled and ordered. -/
theorem parse_spelled {command : Command} {wishes : List Wish} {pieces : List (List String)}
    {path : String} {output : Option String} {color : Option ColorChoice} {detail : Nat}
    (spelled : List.Forall₂ (Spells command) wishes pieces)
    (paths : wishes.filterMap Wish.path? = [path])
    (outputs : wishes.filterMap Wish.output? = output.toList)
    (colors : wishes.filterMap Wish.color? = color.toList)
    (details : (wishes.map Wish.times).sum = detail) :
    parse (command.name :: pieces.flatten) = .ok
      { command, path, output, color := color.getD .auto, verbosity := min detail 255 } := by
  have start : Stands {} {} := ⟨rfl, rfl, rfl, rfl⟩
  have due : Due {} wishes path output color detail :=
    ⟨paths, outputs, colors, by simp [details], Nat.zero_le _⟩
  rw [parse_name]
  exact finish_arguments spelled start due

/-- A call in which the path and the output both begin with a dash. -/
theorem dashedCall_parsed :
    List.Forall₂ (Spells .defs)
        [.detail 1, .output "-x", .path "-", .detail 2, .color .never]
        [["-v"], ["-o=-x"], ["-"], ["-vv"], ["--color", "never"]] ∧
      parse ["defs", "-v", "-o=-x", "-", "-vv", "--color", "never"] =
        .ok ⟨.defs, "-", some "-x", .never, 3⟩ := by
  have spelled : List.Forall₂ (Spells .defs)
      [.detail 1, .output "-x", .path "-", .detail 2, .color .never]
      [["-v"], ["-o=-x"], ["-"], ["-vv"], ["--color", "never"]] :=
    .cons (.detail 0) <| .cons (.outputEqual rfl (by decide)) <|
      .cons (.path (by decide) fun _ => rfl) <| .cons (.detail 1) <| .cons (.color .never) .nil
  exact ⟨spelled, @parse_spelled .defs _ _ "-" (some "-x") (some .never) 3 spelled rfl rfl rfl rfl⟩

end PartDefs.CommandLine
