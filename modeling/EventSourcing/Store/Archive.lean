import EventSourcing.Store.Failure
import EventSourcing.Store.Record

/-!
# Archives

An archived aggregate is a document: its record and its history in one of two encodings.

## Main Definitions

* `Stream` — the record and the history of an aggregate.
* `Encoding.schema` — the written form of the choice of an encoding.
* `Stream.archive`, `Stream.restore` — the document of a stream and back.
-/

namespace EventSourcing

/-- The record and the history of an aggregate. -/
structure Stream (Id : Type) where
  record : Record Id
  events : List (StoredEvent Id)

/-- The choice of an encoding. -/
def Encoding.schema : Schema := .choice "Encoding" (.bare "Json" (.bare "PrettyJson" .nil))

instance : Described Encoding where
  schema := Encoding.schema
  toValue
    | .json => .inl ()
    | .prettyJson => .inr (.inl ())
  ofValue
    | .inl () => .json
    | .inr (.inl ()) => .prettyJson
  ofValue_toValue e := by cases e <;> rfl

/-- The layout of an encoding. -/
def Encoding.layout : Encoding → Json.Layout
  | .json => .compact
  | .prettyJson => .indented

/-- The form of a stream, given that of an identifier. -/
def streamSchema (id : Schema) : Schema :=
  .record "ArchivedStream" (.cons "record" (recordSchema id) (.cons "events"
    (.list (storedEventSchema id)) .nil))

namespace Stream

variable {Id : Type} [Identifier Id]

/-- How messages name the type of streams. -/
def typeName (Id : Type) [Identifier Id] : String :=
  "ArchivedStream<" ++ Identifier.typeName Id ++ ">"

/-- The document of a stream. -/
def archive (encoding : Encoding) (s : Stream Id) : Except String Bytes := do
  let record ← s.record.toValue
  let events ← s.events.mapM StoredEvent.toValue
  return (streamSchema (Identifier.schema Id)).print encoding.layout (record, events, ())

/-- The stream of a document. -/
def restore (document : Bytes) : Except Json.Failure (Stream Id) := do
  let v ← (streamSchema (Identifier.schema Id)).parse document
  return ⟨← Record.ofValue v.1, ← v.2.1.mapM StoredEvent.ofValue⟩

end Stream
end EventSourcing
