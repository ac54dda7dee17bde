import EventSourcing.Codec
import EventSourcing.Text.Quoted

/-!
# Event sets

The events of an aggregate are of several types.  A stored event is the bytes of its payload under
the kind of its type; reading it back finds the type by the kind.  If two types of a set have one
kind, the first one is found for both.

## Main Definitions

* `EventType` — a type of events: its name, its kind and the schema of its payloads.
* `Member` — a payload of one of several types.
* `EventSet` — the types of a set, with the correspondence between its events and `Member`.
* `EventSet.kind`, `EventSet.encode`, `EventSet.decode` — the stored form of an event.
* `EventSet.carry?` — an event as one of another set.
-/

namespace EventSourcing

/-- A type of events. -/
structure EventType where
  /-- The name of the type in messages. -/
  typeName : String
  /-- The kind under which its events are stored. -/
  kind : String
  schema : Schema

/-- A payload of one of several types. -/
inductive Member : List EventType → Type where
  /-- A payload of the first type. -/
  | here {t : EventType} {ts : List EventType} (payload : t.schema.Value) : Member (t :: ts)
  /-- A payload of a later type. -/
  | there {t : EventType} {ts : List EventType} (m : Member ts) : Member (t :: ts)

namespace Member

/-- The kind of a payload's type. -/
def kind : {ts : List EventType} → Member ts → String
  | t :: _, .here _ => t.kind
  | _ :: _, .there m => m.kind

/-- The bytes of a payload. -/
def encode (codec : Codec) : {ts : List EventType} → Member ts → Except String Bytes
  | t :: _, .here v => codec.encode t.schema v
  | _ :: _, .there m => m.encode codec

end Member

/-- Why a stored event cannot be read. -/
inductive DecodeError where
  /-- No type of the set has the kind. -/
  | unknownKind (kind : String) (known : List String)
  /-- The bytes are no payload of the type. -/
  | codec (kind typeName reason : String)
  deriving Repr, DecidableEq

/-- The wording of a failure. -/
def DecodeError.message : DecodeError → String
  | .unknownKind kind known =>
    "unknown event kind `" ++ kind ++ "`, expected one of " ++ Text.quotedList known
  | .codec kind typeName reason =>
    "failed to decode `" ++ kind ++ "` payload as " ++ typeName ++ ": " ++ reason

/-- Reads a payload of the first type that has the kind; nothing if none has it. -/
def Member.decode? (codec : Codec) (kind : String) (bytes : Bytes) :
    (ts : List EventType) → Option (Except DecodeError (Member ts))
  | [] => none
  | t :: ts =>
    if t.kind = kind then
      some <|
        match codec.decode t.schema bytes with
        | .ok v => .ok (.here v)
        | .error reason => .error (.codec kind t.typeName reason)
    else (decode? codec kind bytes ts).map fun read => read.map .there

/-- The events of an aggregate, each a payload of one of the types. -/
structure EventSet (Event : Type) where
  types : List EventType
  toMember : Event → Member types
  ofMember : Member types → Event
  ofMember_toMember : ∀ e, ofMember (toMember e) = e
  toMember_ofMember : ∀ m, toMember (ofMember m) = m

namespace EventSet

variable {Event : Type} (events : EventSet Event)

/-- The kinds of the types, in order. -/
def kinds : List String := events.types.map EventType.kind

/-- The kind under which an event is stored. -/
def kind (e : Event) : String := (events.toMember e).kind

/-- The bytes of an event. -/
def encode (codec : Codec) (e : Event) : Except String Bytes := (events.toMember e).encode codec

/-- The event that is stored under a kind. -/
def decode (codec : Codec) (kind : String) (bytes : Bytes) : Except DecodeError Event :=
  match Member.decode? codec kind bytes events.types with
  | some read => read.map events.ofMember
  | none => .error (.unknownKind kind events.kinds)

/-- An event as the event of another set that has the same stored form. -/
def carry? {Other : Type} (others : EventSet Other) (e : Event) : Option Other := do
  let bytes ← (events.encode .json e).toOption
  (others.decode .json (events.kind e) bytes).toOption

end EventSet
end EventSourcing
