import PartDefs.Proofs.Descriptor.Meaning
import PartDefs.Proofs.Json.Kinds

/-!
# The shape of descriptor files

Which JSON values are descriptor files, and what they say.  Parts and methods are records: no field
is given twice, fields that are missing are empty, and other members are skipped whatever they hold.
All other objects are maps, in which a name may be repeated and the last value counts, though every
value has to be of the right kind.
-/

namespace PartDefs

open Json

/-! ## Kinds of values -/

/-- A parameter entry maps names to types. -/
def Entry.IsShape : Value String → Prop :=
  Value.ObjectOf Value.IsText

/-- The fields of a method may be missing, and its return type may be `null`. -/
def MethodDescriptor.IsShape : Value String → Prop :=
  Value.RecordOf [("returns", Value.OrNull Value.IsText),
    ("arguments", Value.ArrayOf Entry.IsShape)]

/-- The fields of a part may be missing, and its parent and its flag may be `null`. -/
def PartDescriptor.IsShape : Value String → Prop :=
  Value.RecordOf [("extends", Value.OrNull Value.IsText), ("default", Value.OrNull Value.IsFlag),
    ("methods", Value.ObjectOf MethodDescriptor.IsShape),
    ("properties", Value.ObjectOf Value.IsText),
    ("events", Value.ObjectOf (Value.ArrayOf Entry.IsShape))]

/-- A descriptor file maps names to parts. -/
def Descriptors.IsShape : Value String → Prop :=
  Value.ObjectOf PartDescriptor.IsShape

theorem Entry.accepts_meaning? : Accepts Entry.meaning? = Entry.IsShape := by
  rw [Entry.IsShape, ← accepts_text?, ← accepts_map?]
  rfl

theorem MethodDescriptor.accepts_meaning? :
    Accepts MethodDescriptor.meaning? = MethodDescriptor.IsShape := by
  unfold meaning?
  rw [accepts_record? distinct_known, IsShape, ← Entry.accepts_meaning?, ← accepts_text?,
    ← accepts_list?, ← accepts_orNull?]
  simp only [known, fieldMeaning, List.map_cons, List.map_nil, accepts_map_option]

theorem PartDescriptor.accepts_meaning? :
    Accepts PartDescriptor.meaning? = PartDescriptor.IsShape := by
  unfold meaning?
  rw [accepts_record? distinct_known, IsShape, ← MethodDescriptor.accepts_meaning?,
    ← Entry.accepts_meaning?, ← accepts_text?, ← accepts_flag?]
  simp only [known, fieldMeaning, List.map_cons, List.map_nil, accepts_map_option, accepts_orNull?,
    accepts_map?, accepts_list?]

theorem Descriptors.accepts_meaning? : Accepts Descriptors.meaning? = Descriptors.IsShape := by
  rw [Descriptors.IsShape, ← PartDescriptor.accepts_meaning?, ← accepts_map?]
  rfl

/-! ## What is said -/

/-- What a value tells as a parameter entry. -/
def Entry.Tells : Value String → Entry → Prop :=
  TellsMap TellsText

/-- What a value tells as a method. -/
structure MethodDescriptor.Tells (value : Value String) (method : MethodDescriptor) : Prop where
  returns : TellsField (TellsOption TellsText) none (value.given? "returns" 0) method.returns
  arguments : TellsField (TellsList Entry.Tells) [] (value.given? "arguments" 1) method.arguments

/-- What a value tells as a part. -/
structure PartDescriptor.Tells (value : Value String) (part : PartDescriptor) : Prop where
  parent : TellsField (TellsOption TellsText) none (value.given? "extends" 0) part.parent
  isDefault : TellsField TellsFlag false (value.given? "default" 1) part.isDefault
  methods : TellsField (TellsMap MethodDescriptor.Tells) ∅ (value.given? "methods" 2) part.methods
  properties : TellsField (TellsMap TellsText) ∅ (value.given? "properties" 3) part.properties
  events : TellsField (TellsMap (TellsList Entry.Tells)) ∅ (value.given? "events" 4) part.events

/-- What a value tells as a descriptor file. -/
def Descriptors.Tells : Value String → Descriptors → Prop :=
  TellsMap PartDescriptor.Tells

theorem Entry.sound_meaning? : Sound Entry.meaning? Entry.Tells :=
  sound_text?.map?

theorem MethodDescriptor.sound_meaning? :
    Sound MethodDescriptor.meaning? MethodDescriptor.Tells := by
  intro value method meant
  constructor
  · exact shows_returns.tellsField distinct_known rfl sound_text?.orNull? meant
  · exact shows_arguments.tellsField distinct_known rfl Entry.sound_meaning?.list? meant

theorem PartDescriptor.sound_meaning? : Sound PartDescriptor.meaning? PartDescriptor.Tells := by
  intro value part meant
  constructor
  · exact shows_parent.tellsField distinct_known rfl sound_text?.orNull? meant
  · exact shows_isDefault.tellsField distinct_known rfl sound_flag? meant
  · exact shows_methods.tellsField distinct_known rfl MethodDescriptor.sound_meaning?.map? meant
  · exact shows_properties.tellsField distinct_known rfl sound_text?.map? meant
  · exact shows_events.tellsField distinct_known rfl Entry.sound_meaning?.list?.map? meant

namespace Descriptors

theorem sound_meaning? : Sound Descriptors.meaning? Descriptors.Tells :=
  PartDescriptor.sound_meaning?.map?

/-- A compact text is read exactly when its value has the shape of a descriptor file, and then the
parts are those that the value tells. -/
theorem ofText_compact (value : Value String) :
    match ofText (String.ofList value.compact) with
    | .ok all => IsShape value ∧ Tells value all
    | .error _ => ¬IsShape value := by
  have read {all : Descriptors} := @ofText_eq_ok_iff _ _ value _ value.spelledBy_compact all
  have shaped : IsShape value ↔ ∃ all, meaning? value = some all := by
    rw [← accepts_meaning?, Accepts, Option.isSome_iff_exists]
  cases taken : ofText (String.ofList value.compact) with
  | ok all => exact ⟨shaped.2 ⟨all, read.1 taken⟩, sound_meaning? (read.1 taken)⟩
  | error fault =>
      intro fits
      obtain ⟨all, meant⟩ := shaped.1 fits
      rw [read.2 meant] at taken
      cases taken

end Descriptors

end PartDefs
