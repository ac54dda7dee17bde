import EventSourcing.Snapshot.Store
import EventSourcing.Store.Backend

/-!
# Stores that fail on purpose

For tests a store in memory can be told to fail.  Faults wait in a queue; an operation uses up the
first one that is meant for it.  A fault makes the operation fail, or falsifies what it reads, as a
read in the midst of another client's work would.  The codec of the payloads, and the snapshot
store, can be made to fail until further notice.

## Main Definitions

* `StoreCall`, `Fault` — the operations of a store and what can go wrong with them.
* `FaultyMemory`, `FaultyMemory.backend` — a store in memory with a queue of faults.
* `FaultySnapshots`, `FaultySnapshots.backend` — a snapshot store that can fail and counts calls.
-/

namespace EventSourcing

/-- The operations of a store. -/
inductive StoreCall where
  | get
  | loadEvents
  | save
  | contains
  | containsAt
  | box
  | unbox
  | expired
  deriving Repr, DecidableEq

/-- The name of an operation in messages. -/
def StoreCall.name : StoreCall → String
  | .get => "get"
  | .loadEvents => "load_events"
  | .save => "save"
  | .contains => "exists"
  | .containsAt => "exists_at"
  | .box => "box"
  | .unbox => "unbox"
  | .expired => "expired"

/-- What can go wrong with an operation. -/
inductive Fault (Id : Type) where
  /-- The operation fails. -/
  | failure
  /-- A batch is refused for its versions. -/
  | nonContiguous (expected found : Nat)
  /-- A record that is found is of another version. -/
  | recordVersion (version : Nat)
  /-- The first event is not read. -/
  | dropFirst
  /-- The last event is not read. -/
  | dropLast
  /-- The events are read in reverse. -/
  | reverse
  /-- The last event is read twice. -/
  | repeatLast
  /-- The last event belongs to another aggregate. -/
  | foreign (id : Id)
  /-- The last event is of another version. -/
  | renumber (version : Nat)
  /-- Nothing goes wrong. -/
  | none

namespace Fault

variable {Id : Type}

/-- A list with its last member changed. -/
def mapLast {α : Type} (f : α → α) : List α → List α
  | [] => []
  | [a] => [f a]
  | a :: rest => a :: mapLast f rest

/-- What is found of an aggregate. -/
def onLookup : Fault Id → Lookup Id → Except Unit (Lookup Id)
  | .recordVersion version, .found record => .ok (.found { record with version := version })
  | .recordVersion _, lookup => .ok lookup
  | .none, lookup => .ok lookup
  | _, _ => .error ()

/-- What is read of a history. -/
def onEvents : Fault Id → List (StoredEvent Id) → Except Unit (List (StoredEvent Id))
  | .dropFirst, events => .ok (events.drop 1)
  | .dropLast, events => .ok events.dropLast
  | .reverse, events => .ok events.reverse
  | .repeatLast, events => .ok (events ++ events.getLast?.toList)
  | .foreign id, events => .ok (mapLast (fun e => { e with aggregate := id }) events)
  | .renumber version, events => .ok (mapLast (fun e => { e with version := version }) events)
  | .none, events => .ok events
  | _, _ => .error ()

end Fault

/-- The failure of an operation that was told to fail. -/
def StoreCall.failure (call : StoreCall) : StoreError :=
  .unavailable ("injected " ++ call.name ++ " failure")

/-- A store in memory with a queue of faults. -/
structure FaultyMemory (Id : Type) where
  memory : Memory Id
  faults : List (StoreCall × Fault Id)
  codecFails : Bool

namespace FaultyMemory

variable [Counting] {Id : Type} [Identifier Id]

/-- The store without aggregates and faults. -/
def empty : FaultyMemory Id := ⟨.empty, [], false⟩

instance : Inhabited (FaultyMemory Id) := ⟨empty⟩

/-- Puts a fault at the end of the queue. -/
def expect (call : StoreCall) (fault : Fault Id) (s : FaultyMemory Id) : FaultyMemory Id :=
  { s with faults := s.faults ++ [(call, fault)] }

/-- Uses up the first fault for an operation. -/
def take (call : StoreCall) (s : FaultyMemory Id) : Option (Fault Id) × FaultyMemory Id :=
  (s.faults.lookup call, { s with faults := s.faults.eraseP fun f => f.1 = call })

/-- The codec of the payloads. -/
def codec (s : FaultyMemory Id) : Codec :=
  if s.codecFails then .failing "injected codec failure" else .json

/-- An operation that fails if there is any fault for it. -/
def guarded {ε α : Type} (call : StoreCall) (failure : StoreError → ε)
    (op : Memory Id → Except ε α × Memory Id) : StateM (FaultyMemory Id) (Except ε α) := fun s =>
  match s.take call with
  | (some _, s) => (.error (failure call.failure), s)
  | (Option.none, s) =>
    let (answer, memory) := op s.memory
    (answer, { s with memory := memory })

/-- A reading operation whose answer a fault may falsify. -/
def falsified {α : Type} (call : StoreCall) (falsify : Fault Id → α → Except Unit α)
    (read : Memory Id → α) : StateM (FaultyMemory Id) (Except StoreError α) := fun s =>
  let (fault, s) := s.take call
  ((falsify (fault.getD .none) (read s.memory)).mapError fun _ => call.failure, s)

/-- Saves a batch, unless a fault refuses it. -/
def save (kind : String) (record : Record Id) (expected : Nat) (events : List NewEvent) :
    StateM (FaultyMemory Id) (Except StoreSaveError Nat) := fun s =>
  match s.take .save with
  | (some (.nonContiguous wanted found), s) => (.error (.nonContiguous wanted found), s)
  | (some _, s) => (.error (.store StoreCall.save.failure), s)
  | (Option.none, s) =>
    let (answer, memory) := s.memory.save kind record expected events
    (answer, { s with memory := memory })

/-- The operations of a store with faults. -/
def backend (Id : Type) [Identifier Id] : Backend (FaultyMemory Id) Id where
  codec := codec
  get kind id := falsified .get Fault.onLookup (Memory.get kind id)
  loadEvents kind id window :=
    falsified .loadEvents Fault.onEvents (Memory.loadEvents kind id window)
  save := save
  contains kind id := guarded .contains (fun e => e) fun m => (.ok (m.contains kind id), m)
  containsAt kind id version :=
    guarded .containsAt (fun e => e) fun m => (.ok (m.containsAt kind id version), m)
  box kind id encoding := guarded .box .store (Memory.box kind id encoding)
  unbox kind id encoding := guarded .unbox .store (Memory.unbox kind id encoding)
  expired kind cutoff := guarded .expired (fun e => e) fun m => (.ok (m.expired kind cutoff), m)

end FaultyMemory

/-- A snapshot store that can fail and counts calls. -/
structure FaultySnapshots (Id : Type) where
  memory : SnapshotMemory Id
  failing : Bool
  calls : Nat

namespace FaultySnapshots

variable {Id : Type} [DecidableEq Id]

/-- The store without snapshots. -/
def empty (policy : SnapshotPolicy) : FaultySnapshots Id := ⟨.empty policy, false, 0⟩

instance : Inhabited (FaultySnapshots Id) := ⟨empty default⟩

/-- The failure of a store that was told to fail. -/
def failure : SnapshotError := .unavailable "injected snapshot failure"

/-- The operations of the store. -/
def backend (Id : Type) [DecidableEq Id] : SnapshotBackend (FaultySnapshots Id) Id where
  load form kind id s :=
    let s := { s with calls := s.calls + 1 }
    (if s.failing then .error failure else s.memory.load form kind id, s)
  offer form kind id current count create s :=
    let s := { s with calls := s.calls + 1 }
    if s.failing then (.error (.snapshot failure), s)
    else
      let (answer, memory) := s.memory.offer form kind id current count create
      (answer, { s with memory := memory })

end FaultySnapshots
end EventSourcing
