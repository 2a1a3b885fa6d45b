import PartDefs.Descriptor.Reader
import PartDefs.Proofs.Json.Members

/-!
# The meaning of descriptor files

What each kind of value in a descriptor file means, and which field a value belongs to.  A file that
spells a value is read as what the value means.
-/

namespace PartDefs

open Json

variable {σ : Type} [Lettered σ]

namespace Entry

/-- What a value means as a parameter entry. -/
def meaning? : Value σ → Option Entry :=
  Value.map? Value.text?

theorem reads : Reads Entry.reader (meaning? : Value σ → Option Entry) :=
  reads_string.map

end Entry

namespace MethodDescriptor

/-- What the fields of a method mean. -/
def known : List (FieldMeaning σ MethodDescriptor) :=
  [fieldMeaning "returns" (Value.orNull? Value.text?) fun returns method =>
      { method with returns },
    fieldMeaning "arguments" (Value.list? Entry.meaning?) fun arguments method =>
      { method with arguments }]

/-- What a value means as a method. -/
def meaning? : Value σ → Option MethodDescriptor :=
  Value.record? known {}

theorem fields_agree :
    List.Forall₂ Field.Agrees fields (known : List (FieldMeaning σ MethodDescriptor)) :=
  .cons (field_agrees _ reads_string.optional _) (.cons (field_agrees _ Entry.reads.list _) .nil)

theorem reads : Reads reader (meaning? : Value σ → Option MethodDescriptor) :=
  reads_record _ fields_agree _

theorem known_names : (known : List (FieldMeaning σ MethodDescriptor)).map (·.name) =
    ["returns", "arguments"] :=
  rfl

theorem distinct_known : ((known : List (FieldMeaning σ MethodDescriptor)).map (·.name)).Nodup := by
  rw [known_names]
  decide

theorem shows_returns : Shows (known : List (FieldMeaning σ MethodDescriptor)) "returns"
    (Value.orNull? Value.text?) (·.returns) := by
  constructor <;> simp [known, fieldMeaning, Function.comp_def]

theorem shows_arguments : Shows (known : List (FieldMeaning σ MethodDescriptor)) "arguments"
    (Value.list? Entry.meaning?) (·.arguments) := by
  constructor <;> simp [known, fieldMeaning, Function.comp_def]

end MethodDescriptor

namespace PartDescriptor

/-- What a value means as a flag, `null` being the same as `false`. -/
def flag? (value : Value σ) : Option Bool :=
  (value.orNull? Value.flag?).map (·.getD false)

/-- What the fields of a part mean. -/
def known : List (FieldMeaning σ PartDescriptor) :=
  [fieldMeaning "extends" (Value.orNull? Value.text?) fun parent part => { part with parent },
    fieldMeaning "default" (Value.orNull? Value.flag?) fun flag part =>
      { part with isDefault := flag.getD false },
    fieldMeaning "methods" (Value.map? MethodDescriptor.meaning?) fun methods part =>
      { part with methods },
    fieldMeaning "properties" (Value.map? Value.text?) fun properties part =>
      { part with properties },
    fieldMeaning "events" (Value.map? (Value.list? Entry.meaning?)) fun events part =>
      { part with events }]

/-- What a value means as a part. -/
def meaning? : Value σ → Option PartDescriptor :=
  Value.record? known {}

theorem fields_agree :
    List.Forall₂ Field.Agrees fields (known : List (FieldMeaning σ PartDescriptor)) :=
  .cons (field_agrees _ reads_string.optional _) <|
    .cons (field_agrees _ reads_boolean.optional _) <|
    .cons (field_agrees _ MethodDescriptor.reads.map _) <|
    .cons (field_agrees _ reads_string.map _) <|
    .cons (field_agrees _ (Reads.map Entry.reads.list) _) .nil

theorem reads : Reads reader (meaning? : Value σ → Option PartDescriptor) :=
  reads_record _ fields_agree _

theorem known_names : (known : List (FieldMeaning σ PartDescriptor)).map (·.name) =
    ["extends", "default", "methods", "properties", "events"] :=
  rfl

theorem distinct_known : ((known : List (FieldMeaning σ PartDescriptor)).map (·.name)).Nodup := by
  rw [known_names]
  decide

theorem shows_parent : Shows (known : List (FieldMeaning σ PartDescriptor)) "extends"
    (Value.orNull? Value.text?) (·.parent) := by
  constructor <;> simp [known, fieldMeaning, Function.comp_def]

theorem shows_isDefault :
    Shows (known : List (FieldMeaning σ PartDescriptor)) "default" flag? (·.isDefault) := by
  constructor <;> simp [known, fieldMeaning, flag?, Function.comp_def]

theorem shows_methods : Shows (known : List (FieldMeaning σ PartDescriptor)) "methods"
    (Value.map? MethodDescriptor.meaning?) (·.methods) := by
  constructor <;> simp [known, fieldMeaning, Function.comp_def]

theorem shows_properties : Shows (known : List (FieldMeaning σ PartDescriptor)) "properties"
    (Value.map? Value.text?) (·.properties) := by
  constructor <;> simp [known, fieldMeaning, Function.comp_def]

theorem shows_events : Shows (known : List (FieldMeaning σ PartDescriptor)) "events"
    (Value.map? (Value.list? Entry.meaning?)) (·.events) := by
  constructor <;> simp [known, fieldMeaning, Function.comp_def]

end PartDescriptor

namespace Descriptors

/-- What a value means as a descriptor file. -/
def meaning? : Value σ → Option Descriptors :=
  Value.map? PartDescriptor.meaning?

theorem reads : Reads reader (meaning? : Value σ → Option Descriptors) :=
  PartDescriptor.reads.map

/-- From a text that spells a value, the parts are read that the value means. -/
theorem ofText_eq_ok_iff {value : Value σ} {text : String} (spelled : value.SpelledBy text)
    {all : Descriptors} : ofText text = .ok all ↔ meaning? value = some all := by
  obtain ⟨rest, spelled, space⟩ := spelled
  rw [← reads.document spelled space, ofText]
  cases document reader text.toList <;> simp [Except.toOption]

end Descriptors

end PartDefs
