import EventSourcing.TextMap
import EventSourcing.Time.Timestamp
import EventSourcing.Uuid

/-!
# Schemas

A schema describes the JSON form of a type: which names, words and texts stand where.  It is data,
so one writer, one reader of text and one reader of values serve every payload, state and archive.

A schema determines the type of what it describes: `Schema.Value`.  The value of a structure is a
row, one component for each field; the value of a choice between variants is a sum.

## Main Definitions

* `Schema`, `Fields`, `Variants` — the descriptions.
* `Schema.Value`, `Fields.Row`, `Variants.Choice` — the types that they describe.
* `Described` — a type that is described by a schema.
-/

namespace EventSourcing

mutual

/-- The JSON form of a type. -/
inductive Schema where
  | bool
  | string
  | u8
  | u32
  | u64
  | i32
  | i64
  | uuid
  | instant
  /-- A type with one value, written as `null`. -/
  | unit (name : String)
  | option (s : Schema)
  | list (s : Schema)
  | map (s : Schema)
  | record (name : String) (fields : Fields)
  | choice (name : String) (variants : Variants)

/-- The fields of a structure in the order in which they are written. -/
inductive Fields where
  | nil
  | cons (name : String) (s : Schema) (rest : Fields)

/-- The variants of a choice. -/
inductive Variants where
  | nil
  /-- A variant without content. -/
  | bare (name : String) (rest : Variants)
  /-- A variant with one component. -/
  | holding (name : String) (s : Schema) (rest : Variants)
  /-- A variant with named components. -/
  | record (name : String) (fields : Fields) (rest : Variants)

end

mutual

/-- The type that a schema describes. -/
@[reducible] def Schema.Value : Schema → Type
  | .bool => Bool
  | .string => String
  | .u8 => UInt8
  | .u32 => UInt32
  | .u64 => UInt64
  | .i32 => Int32
  | .i64 => Int64
  | .uuid => Uuid
  | .instant => Instant
  | .unit _ => Unit
  | .option s => Option s.Value
  | .list s => List s.Value
  | .map s => TextMap s.Value
  | .record _ fs => fs.Row
  | .choice _ vs => vs.Choice

/-- One component for each field. -/
@[reducible] def Fields.Row : Fields → Type
  | .nil => Unit
  | .cons _ s rest => s.Value × rest.Row

/-- The content of one of the variants. -/
@[reducible] def Variants.Choice : Variants → Type
  | .nil => Empty
  | .bare _ rest => Unit ⊕ rest.Choice
  | .holding _ s rest => s.Value ⊕ rest.Choice
  | .record _ fs rest => fs.Row ⊕ rest.Choice

end

/-- The number of fields. -/
def Fields.length : Fields → Nat
  | .nil => 0
  | .cons _ _ rest => rest.length + 1

/-- The names of the variants. -/
def Variants.names : Variants → List String
  | .nil => []
  | .bare name rest => name :: rest.names
  | .holding name _ rest => name :: rest.names
  | .record name _ rest => name :: rest.names

/-- The value of a field that may be left out. -/
def Schema.absent? : (s : Schema) → Option s.Value
  | .option _ => some none
  | _ => none

/-- A type described by a schema: its values correspond to those of the schema. -/
class Described (α : Type) where
  schema : Schema
  toValue : α → schema.Value
  ofValue : schema.Value → α
  ofValue_toValue : ∀ a, ofValue (toValue a) = a

end EventSourcing
