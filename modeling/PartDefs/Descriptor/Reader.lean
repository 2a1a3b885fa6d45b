import PartDefs.Descriptor
import PartDefs.Json.Typed

/-!
# Descriptor files

A descriptor file is a JSON text: a map from part names to parts.  All fields of parts and methods
may be missing.
-/

namespace PartDefs

/-- Reads a parameter entry. -/
def Entry.reader : Json.Reader Entry :=
  Json.map Json.string

namespace MethodDescriptor

/-- The fields of a method in the order of declaration. -/
def fields : List (Json.Field MethodDescriptor) :=
  [Json.field "returns" (Json.optional Json.string) fun returns method => { method with returns },
    Json.field "arguments" (Json.list Entry.reader) fun arguments method =>
      { method with arguments }]

/-- Reads a method. -/
def reader : Json.Reader MethodDescriptor :=
  Json.record .method fields {}

end MethodDescriptor

namespace PartDescriptor

/-- The fields of a part in the order of declaration. -/
def fields : List (Json.Field PartDescriptor) :=
  [Json.field "extends" (Json.optional Json.string) fun parent part => { part with parent },
    Json.field "default" (Json.optional Json.boolean) fun flag part =>
      { part with isDefault := flag.getD false },
    Json.field "methods" (Json.map MethodDescriptor.reader) fun methods part =>
      { part with methods },
    Json.field "properties" (Json.map Json.string) fun properties part => { part with properties },
    Json.field "events" (Json.map (Json.list Entry.reader)) fun events part => { part with events }]

/-- Reads a part. -/
def reader : Json.Reader PartDescriptor :=
  Json.record .part fields {}

end PartDescriptor

namespace Descriptors

/-- Reads all parts of a descriptor file. -/
def reader : Json.Reader Descriptors :=
  Json.map PartDescriptor.reader

/-- The parts that a text describes, or a report of its first fault. -/
def ofText (text : String) : Except Json.Report Descriptors :=
  match Json.document reader text.toList with
  | .ok parts => .ok parts
  | .error fault => .error (fault.report text.toList)

end Descriptors

end PartDefs
