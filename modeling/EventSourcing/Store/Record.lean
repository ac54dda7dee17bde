import EventSourcing.Event.Originator
import EventSourcing.Identifier.Basic

/-!
# What a store keeps

A store keeps a record of each aggregate and the events of its history.  Events carry their payload
as bytes.  This module also gives the written forms of records and events.

An identifier may refuse to be written, and a version is written only if it fits 64 bits.

## Main Definitions

* `Record` — the record of an aggregate.
* `NewEvent`, `StoredEvent` — an event on its way into a store, and one that is kept there.
* `Lookup` — what a store knows of an aggregate.
* `Record.toValue`, `StoredEvent.toValue` and their inverses — the written forms.
-/

namespace EventSourcing

/-- The record of an aggregate. -/
structure Record (Id : Type) where
  aggregate : Id
  /-- The version of its last event. -/
  version : Nat
  tenant : Option String
  deleted : Bool
  deletedAt : Option Instant
  deriving DecidableEq

/-- An event on its way into a store. -/
structure NewEvent where
  id : Uuid
  kind : String
  version : Nat
  data : Bytes
  time : Instant
  originator : Originator
  deriving DecidableEq

/-- An event that a store keeps. -/
structure StoredEvent (Id : Type) where
  aggregateKind : String
  aggregate : Id
  id : Uuid
  kind : String
  version : Nat
  data : Bytes
  time : Instant
  originator : Originator
  deriving DecidableEq

/-- The event as a store keeps it in the history of an aggregate. -/
def NewEvent.stored {Id : Type} (aggregateKind : String) (aggregate : Id) (e : NewEvent) :
    StoredEvent Id where
  aggregateKind := aggregateKind
  aggregate := aggregate
  id := e.id
  kind := e.kind
  version := e.version
  data := e.data
  time := e.time
  originator := e.originator

/-- What a store knows of an aggregate. -/
inductive Lookup (Id : Type) where
  | notFound
  | archived
  | found (record : Record Id)

/-! ### Written forms -/

variable {Id : Type} [Identifier Id]

/-- A version as a word of 64 bits. -/
def writeVersion (version : Nat) : Except String UInt64 :=
  if version < 18446744073709551616 then .ok (UInt64.ofNat version)
  else .error "number out of range"

theorem toNat_of_writeVersion {version : Nat} {w : UInt64} (h : writeVersion version = .ok w) :
    w.toNat = version := by
  unfold writeVersion at h
  split at h
  · next hlt => cases h; exact UInt64.toNat_ofNat_of_lt' hlt
  · cases h

/-- The form of a record, given that of an identifier. -/
def recordSchema (id : Schema) : Schema :=
  .record "AggregateRecord" (.cons "aggregate_id" id (.cons "version" .u64 (.cons "tenant_id"
    (.option .string) (.cons "deleted" .bool (.cons "deleted_at" (.option .instant) .nil)))))

/-- The form of an event, given that of an identifier. -/
def storedEventSchema (id : Schema) : Schema :=
  .record "StoredEvent" (.cons "aggregate_kind" .string (.cons "aggregate_id" id (.cons "event_id"
    .uuid (.cons "kind" .string (.cons "version" .u64 (.cons "data" (.list .u8) (.cons "created_at"
    .instant (.cons "originator" (Described.schema Originator) .nil))))))))

namespace Record

/-- What is written of a record. -/
def toValue (r : Record Id) : Except String (recordSchema (Identifier.schema Id)).Value := do
  return (← Identifier.write r.aggregate, ← writeVersion r.version, r.tenant, r.deleted,
    r.deletedAt, ())

/-- The record of what is written. -/
def ofValue (v : (recordSchema (Identifier.schema Id)).Value) :
    Except Json.Failure (Record Id) := do
  return ⟨← Identifier.read v.1, v.2.1.toNat, v.2.2.1, v.2.2.2.1, v.2.2.2.2.1⟩

end Record

namespace StoredEvent

/-- What is written of an event. -/
def toValue (e : StoredEvent Id) :
    Except String (storedEventSchema (Identifier.schema Id)).Value := do
  return (e.aggregateKind, ← Identifier.write e.aggregate, e.id, e.kind, ← writeVersion e.version,
    e.data, e.time, Described.toValue e.originator, ())

/-- The event of what is written. -/
def ofValue (v : (storedEventSchema (Identifier.schema Id)).Value) :
    Except Json.Failure (StoredEvent Id) := do
  return ⟨v.1, ← Identifier.read v.2.1, v.2.2.1, v.2.2.2.1, v.2.2.2.2.1.toNat, v.2.2.2.2.2.1,
    v.2.2.2.2.2.2.1, Described.ofValue v.2.2.2.2.2.2.2.1⟩

end StoredEvent
end EventSourcing
