import EventSourcing.Aggregate.Handles
import EventSourcing.Aggregate.Subject
import EventSourcing.Testing.Fault
import EventSourcing.Testing.Seeding

/-!
# Sessions

A session is one client at work on a store: it holds roots by name, keeps lists of events for later,
moves the clock by hand and tells the stores to fail.  Events are given by their kind and bytes and
are decoded when they are used.

New events get identifiers with ascending serial numbers; a number is used up only when the event
comes into being.

## Main Definitions

* `Session` — the state of a session.
* `HandleRequest`, `Request` — what a client can ask for, of a root it holds and otherwise.
* `Reply`, `SessionError` — what it gets.
-/

namespace EventSourcing

variable {Id : Type}

/-- An event by its kind and bytes. -/
structure EventSpec where
  kind : String
  data : Bytes

/-- An envelope that the client builds itself.  Without a version it is a new one. -/
structure EnvelopeSpec (Id : Type) where
  event : EventSpec
  aggregate : Option Id
  version : Option Nat
  id : Uuid
  time : Instant
  originator : Originator

/-- What a client can ask for of a root that it holds. -/
inductive HandleRequest (Id : Type) where
  | state
  | apply (event : EventSpec)
  | execute (command : String) (arguments : Json)
  | record (envelope : EnvelopeSpec Id)
  | changes (keep : Option String)
  | flush (keep : Option String)
  | save (expected : Option Nat) (plain : Bool) (keep : Option String)
  | rehydrate (history : List (EnvelopeSpec Id))
  | rehydrateKept (name : String) (start stop : Option Nat)
  | markDeleted
  | undelete
  | setOriginator (originator : Originator)
  | rootClock
  | diagnostic
  | share
  | clone (copy : String)
  | unwrap
  | drop

/-- What a client can ask for of an aggregate of one of the session's kinds. -/
inductive RootRequest where
  | create (version : Option Nat) (tenant : Option String) (originator : Originator)
  | shell (version : Option Nat) (tenant : Option String)
  | load (plain : Bool)
  | loadAt (version : Nat)

/-- What a client can ask for otherwise. -/
inductive Request (Id : Type) where
  /-- A root, which the client then holds by a name. -/
  | root (kind : String) (id : Id) (name : String) (request : RootRequest)
  | events (kind : String) (id : Id) (upTo : Option Nat)
  | seed (kind : String) (id : Id) (events : List EventSpec)
  | seedRaw (kind : String) (id : Id) (event : EventSpec)
  | contains (kind : String) (id : Id)
  | containsAt (kind : String) (id : Id) (version : Nat)
  | box (kind : String) (id : Id) (encoding : Encoding)
  | unbox (kind : String) (id : Id) (encoding : Encoding)
  | get (kind : String) (id : Id)
  | loadEvents (kind : String) (id : Id) (window : Window)
  | save (kind : String) (record : Record Id) (expected : Nat) (events : List NewEvent)
  | archiveEncoding (kind : String) (id : Id)
  | putSnapshot (kind : String) (id : Id) (snapshot : Snapshot Json)
  | snapshot (kind : String) (id : Id)
  | expired (kind : String) (cutoff : Instant)
  | clock (set : Option Instant) (advance : Option Int)
  | storeDiagnostic
  | repositoryDiagnostic
  | snapshotsFail (failing : Bool)
  | codecFail (failing : Bool)
  | fault (call : StoreCall) (fault : Fault Id)

/-- Why a request fails. -/
inductive SessionError (Id : Type) where
  | construction (e : ConstructionError)
  | replay (e : ReplayError Id)
  | flush (e : FlushError Id)
  | decode (e : DecodeError)
  | load (e : LoadError Id)
  | save (e : SaveError Id)
  | storeSave (e : StoreSaveError)
  | archive (e : ArchiveError)
  | seed (e : Seeding.SeedError)
  | store (e : StoreError)
  | violation (v : Violation)
  /-- The clock would leave the range of instants. -/
  | clockOverflow
  /-- There is no such handle, kind, command or list. -/
  | unknown

/-- A root of one of the kinds. -/
structure Held (subjects : List (Subject Id)) where
  index : Fin subjects.length
  root : Root (subjects.get index).aggregate

/-- Events of one of the kinds. -/
structure HeldEvents (subjects : List (Subject Id)) where
  index : Fin subjects.length
  events : List (Envelope Id (subjects.get index).aggregate.Event)

/-- What a client gets. -/
inductive Reply (subjects : List (Subject Id)) where
  | nothing
  | number (n : Nat)
  | truth (b : Bool)
  | text (s : String)
  | optionalText (s : Option String)
  | time (t : Instant)
  | root (held : Held subjects)
  | events (held : HeldEvents subjects)
  | lookup (found : Lookup Id)
  | storedEvents (events : List (StoredEvent Id))
  | identifiers (ids : List Id)
  | snapshot (version : Option Nat) (stored calls : Nat)

/-- The state of a session. -/
structure Session (subjects : List (Subject Id)) where
  store : FaultyMemory Id
  snapshots : FaultySnapshots Id
  /-- Whether the client works with snapshots. -/
  snapshotting : Bool
  clock : Instant
  /-- How many new events there have been. -/
  minted : Nat
  handles : Handles (Held subjects)
  kept : List (String × HeldEvents subjects)

/-- A session at its start.  Without a policy the client works without snapshots. -/
def Session.start (subjects : List (Subject Id)) [Identifier Id] (clock : Instant)
    (policy : Option SnapshotPolicy) : Session subjects where
  store := .empty
  snapshots := .empty (policy.getD .never)
  snapshotting := policy.isSome
  clock := clock
  minted := 0
  handles := .empty
  kept := []

end EventSourcing
