import EventSourcing.Repository.Load
import EventSourcing.Repository.Save

/-!
# Seeding histories

Tests write events straight into a store, as another process would.  No command is carried out and
no root is needed; the store's condition on versions still holds.  Seeded events come from the
service `test-seed`, and tenant and deletion of the aggregate stay as they are.

## Main Definitions

* `Seeding.seed` — appends events to a history.
* `Seeding.seedRaw` — appends one event of any kind and any bytes.
-/

namespace EventSourcing.Seeding

/-- Why events are not seeded. -/
inductive SeedError where
  /-- An event cannot be encoded. -/
  | codec (kind reason : String)
  | save (e : StoreSaveError)
  deriving Repr, DecidableEq

/-- The wording of a failure. -/
def SeedError.message : SeedError → String
  | .codec kind reason => encodeFailureMessage kind reason
  | .save e => "failed to persist seeded events: " ++ e.message

/-- From whom seeded events come. -/
def originator : Originator := .ofService "test-seed"

variable [Counting] {σ τ Id : Type}

/-- The record of an aggregate behind more events.  `current` is the record so far. -/
def recordBehind (id : Id) (current : Option (Record Id)) (version : Nat) : Record Id where
  aggregate := id
  version := version
  tenant := current.bind Record.tenant
  deleted := current.any Record.deleted
  deletedAt := current.bind Record.deletedAt

/-- The stored version of an aggregate: zero if there is none. -/
def versionOf (current : Option (Record Id)) : Nat := (current.map Record.version).getD 0

/-- The events as a store takes them, with the versions that follow `version`. -/
def encodedFrom (A : Aggregate Id) (codec : Codec) (now : Instant) :
    (ids : Nat → Uuid) → (version : Nat) → List A.Event → Except SeedError (List NewEvent)
  | _, _, [] => .ok []
  | ids, version, e :: rest =>
    match A.events.encode codec e with
    | .error reason => .error (.codec (A.events.kind e) reason)
    | .ok data => do
      return ⟨ids 0, A.events.kind e, plus version 1, data, now, originator⟩ ::
        (← encodedFrom A codec now (fun i => ids (i + 1)) (plus version 1) rest)

/-- Appends events to the history of an aggregate, which comes into being if there is none. -/
def seed (store : Backend σ Id) (A : Aggregate Id) (ids : Nat → Uuid) (now : Instant) (id : Id)
    (events : List A.Event) : Action σ τ SeedError Unit := do
  let current ←
    match ← Action.onStore (fun e => .save (.store e)) (store.get A.kind id) with
    | .found record => pure (some record)
    | .notFound => pure none
    | .archived => throw (.save .archived)
  let expected := versionOf current
  let codec := store.codec (← Action.storeState)
  let batch ← Action.of (encodedFrom A codec now ids expected events)
  let record := recordBehind id current (plus expected batch.length)
  let _ ← Action.onStore .save (store.save A.kind record expected batch)

/-- Appends one event of any kind and any bytes to the history of an aggregate of any kind. -/
def seedRaw (store : Backend σ Id) (kind : String) (eventId : Uuid) (now : Instant) (id : Id)
    (eventKind : String) (data : Bytes) : Action σ τ StoreSaveError Unit := do
  let current ←
    match ← Action.onStore .store (store.get kind id) with
    | .found record => pure (some record)
    | _ => pure none
  let expected := versionOf current
  let record := recordBehind id current (plus expected 1)
  let event : NewEvent := ⟨eventId, eventKind, plus expected 1, data, now, originator⟩
  let _ ← Action.onStore (fun e => e) (store.save kind record expected [event])

end EventSourcing.Seeding
