import EventSourcing.Schema.ValueReader
import EventSourcing.Schema.Writer

/-!
# JSON forms

Some values are kept as JSON trees and not as bytes.  A form says how a type is kept: what is
written of a value, which may refuse, and how it is read again.

## Main Definitions

* `JsonForm` — the two directions, with the name of the type in messages.
* `JsonForm.ofSchema`, `JsonForm.described` — the form that a schema gives.
-/

namespace EventSourcing

/-- How the values of a type are kept as JSON trees. -/
structure JsonForm (α : Type) where
  /-- The name of the type in messages. -/
  typeName : String
  write : α → Except String Json
  read : Json → Except Json.Failure α

namespace JsonForm

/-- The values of a schema. -/
def ofSchema (typeName : String) (s : Schema) : JsonForm s.Value where
  typeName := typeName
  write v := .ok (s.toJson v).sorted
  read := s.ofJson

/-- A type that a schema describes. -/
def described (typeName : String) (α : Type) [d : Described α] : JsonForm α where
  typeName := typeName
  write a := .ok (d.schema.toJson (d.toValue a)).sorted
  read v := (d.schema.ofJson v).map d.ofValue

/-- Whatever is written is read back. -/
def RoundTrips {α : Type} (form : JsonForm α) : Prop :=
  ∀ a v, form.write a = .ok v → form.read v = .ok a

end JsonForm
end EventSourcing
