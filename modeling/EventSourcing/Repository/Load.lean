import EventSourcing.Repository.Failure
import EventSourcing.Snapshot.Store
import EventSourcing.Store.Backend

/-!
# Loading aggregates

A repository builds roots from what a store keeps.  It reads the record of an aggregate, builds a
root without history and replays the stored events on it; the root must then be at the version of
the record.  With snapshots it starts at the snapshot instead and replays only the events behind
it.  A snapshot that cannot be used is as good as none.

Loading takes two looks at the store, `record` and `replayTail`, and other clients may save in
between.

## Main Definitions

* `Repository` — a store, perhaps with snapshots.
* `Repository.create` — a new aggregate.
* `Repository.load`, `Repository.loadAt` — the present root, and the root of an earlier version.
* `Repository.events` — the history.
-/

namespace EventSourcing

/-- An action on a store with state `σ` and a snapshot store with state `τ`, which may fail. -/
abbrev Action (σ τ ε α : Type) : Type := ExceptT ε (StateM (σ × τ)) α

/-- An answer that is there already, as an action. -/
def Action.of {σ τ ε α : Type} (answer : Except ε α) : Action σ τ ε α := fun s => (answer, s)

/-- An operation of the store as an action. -/
def Action.onStore {σ τ ε ε' α : Type} (failure : ε' → ε) (op : StateM σ (Except ε' α)) :
    Action σ τ ε α :=
  fun (s, t) =>
    let (answer, s) := op s
    (answer.mapError failure, (s, t))

/-- An operation of the snapshot store as an action. -/
def Action.onSnapshots {σ τ ε α : Type} (op : StateM τ α) : Action σ τ ε α :=
  fun (s, t) =>
    let (answer, t) := op t
    (.ok answer, (s, t))

/-- The state of the store. -/
def Action.storeState {σ τ ε : Type} : Action σ τ ε σ := fun (s, t) => (.ok s, (s, t))

/-- A store, perhaps with snapshots. -/
structure Repository (σ τ Id : Type) : Type 1 where
  store : Backend σ Id
  snapshots : Option (SnapshotBackend τ Id)

/-- The form of a repository in diagnostics, given those of its stores. -/
def Repository.diagnostic (store snapshots : String) : String :=
  "Repository \x7b store: " ++ store ++ ", snapshots: Snapshots(" ++ snapshots ++ "), .. \x7d"

/-- The event of a stored one. -/
def StoredEvent.envelope {Id : Type} (A : Aggregate Id) (codec : Codec) (e : StoredEvent Id) :
    Except DecodeError (Envelope Id A.Event) := do
  let payload ← A.events.decode codec e.kind e.data
  return {
    id := e.id
    aggregate := e.aggregate
    version := some e.version
    payload := payload
    time := e.time
    originator := e.originator }

namespace Repository

variable [Counting] {σ τ Id : Type} [Identifier Id] (R : Repository σ τ Id) (A : Aggregate Id)

/-- A new aggregate. -/
def create (id : Id) : Except ConstructionError (Root A) := Root.start A id 0

/-- The record of a live aggregate. -/
def record (id : Id) : Action σ τ (LoadError Id) (Record Id) := do
  match ← Action.onStore .store (R.store.get A.kind id) with
  | .found record => return record
  | .notFound => throw (.notFound A.kind id)
  | .archived => throw (.archived A.kind id)

/-- A root at a version for the aggregate of a record. -/
def shell (record : Record Id) (version : Nat) : Except (LoadError Id) (Root A) :=
  (Root.shell A record.aggregate (some version) record.tenant).mapError .construction

/-- The stored events of an aggregate within a window of versions. -/
def decodedEvents (id : Id) (window : Window) :
    Action σ τ (LoadError Id) (List (Envelope Id A.Event)) := do
  let stored ← Action.onStore .store (R.store.loadEvents A.kind id window)
  let codec := R.store.codec (← Action.storeState)
  Action.of ((stored.mapM (StoredEvent.envelope A codec)).mapError LoadError.eventDecode)

/-- The history of an aggregate, all of it or up to a version. -/
def events (id : Id) (upTo : Option Nat) :
    Action σ τ (LoadError Id) (List (Envelope Id A.Event)) := do
  let _ ← R.record A id
  R.decodedEvents A id ⟨none, upTo⟩

variable {A} in
/-- Replays on a root the stored events behind its version, which must lead to the version of the
record. -/
def replayTail (root : Root A) (record : Record Id) : Action σ τ (LoadError Id) (Root A) := do
  let history ← R.decodedEvents A root.id (.since root.version)
  let root ← Action.of ((root.rehydrate history).mapError .replay)
  if root.version ≠ record.version then
    throw (.inconsistent record.version root.version)
  return { root with deleted := record.deleted, deletedAt := record.deletedAt }

/-- The snapshot with which an aggregate of the given version can be built, if there is one. -/
def usableSnapshot? (id : Id) (version : Nat) :
    Action σ τ (LoadError Id) (Option (Snapshot A.State)) := do
  match R.snapshots with
  | none => return none
  | some snapshots =>
    match ← Action.onSnapshots (snapshots.load A.form A.kind id) with
    | .ok (some snapshot) => return if snapshot.version ≤ version then some snapshot else none
    | _ => return none

/-- The root from which the history is replayed. -/
def base (record : Record Id) (snapshot : Option (Snapshot A.State)) :
    Except (LoadError Id) (Root A) :=
  match snapshot with
  | some snapshot =>
    (shell A record snapshot.version).map fun root => { root with state := some snapshot.data }
  | none => shell A record 0

/-- The root of an aggregate. -/
def load (id : Id) : Action σ τ (LoadError Id) (Root A) := do
  let record ← R.record A id
  let snapshot ← R.usableSnapshot? A id record.version
  let root ← Action.of (base A record snapshot)
  R.replayTail root record

/-- The root as it was at a version.  It is not marked as deleted. -/
def loadAt (id : Id) (version : Nat) : Action σ τ (LoadError Id) (Root A) := do
  let record ← R.record A id
  if record.version < version then
    throw (.versionNotFound A.kind id version record.version)
  let root ← Action.of (shell A record 0)
  let history ← R.decodedEvents A id (.through version)
  let root ← Action.of ((root.rehydrate history).mapError .replay)
  if root.version ≠ version then
    throw (.inconsistent version root.version)
  return root

end Repository
end EventSourcing
