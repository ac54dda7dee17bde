import EventSourcing.Aggregate.Basic
import EventSourcing.Event.Envelope
import EventSourcing.Identifier.Basic

/-!
# Roots

A root is one aggregate in memory: its identifier, the version of the last committed event, the
state after all its events, and the events that are not committed yet.

New events are folded into the state and put behind the pending ones.  Committing gives the pending
events the versions that follow.  Replaying folds committed history, which must continue the root's
version and belong to it; the whole history is checked before anything is folded.

Roots are changed in place: a call leaves a root behind it whether it passes or fails.

## Main Definitions

* `Root` — one aggregate in memory.
* `Root.InPlace` — calls that change a root in place.
* `Root.start` — a new aggregate.
* `Root.record`, `Root.apply`, `InPlace.execute` — new events.
* `Root.stage`, `Root.complete`, `InPlace.flush` — committing.
* `InPlace.rehydrate` — replaying history.
* `Root.execute`, `Root.flush`, `Root.rehydrate` — the answers of these calls, with the root behind
  them.
-/

namespace EventSourcing

/-- What an aggregate can be asked to be built from. -/
structure ShellShape where
  version : Bool
  tenant : Bool
  deriving Repr, DecidableEq

namespace ShellShape

/-- The wording of a shape. -/
def text (s : ShellShape) : String :=
  "(id" ++ (if s.version then ", version" else "") ++ (if s.tenant then ", tenant" else "") ++ ")"

/-- The name of a shape in diagnostics. -/
def name (s : ShellShape) : String :=
  "Id" ++ (if s.version then "Version" else "") ++ (if s.tenant then "Tenant" else "")

/-- Whether aggregates of a kind are built from the shape: a tenant is there exactly if the kind
asks for one. -/
def fits (s : ShellShape) (tenantScoped : Bool) : Bool := s.tenant == tenantScoped

end ShellShape

/-- Why no root can be built. -/
inductive ConstructionError where
  | emptyId (kind : String)
  | missingConstructor (kind : String) (shape : ShellShape)
  deriving Repr, DecidableEq

/-- The wording of a failure. -/
def ConstructionError.message : ConstructionError → String
  | .emptyId kind => "aggregate `" ++ kind ++ "` requires a non-empty identifier"
  | .missingConstructor kind shape =>
    "aggregate `" ++ kind ++ "` has no construction path of shape " ++ shape.text

/-- The form of a failure in diagnostics. -/
def ConstructionError.diagnostic : ConstructionError → String
  | .emptyId kind => "EmptyId \x7b kind: " ++ Text.quoted kind ++ " \x7d"
  | .missingConstructor kind shape =>
    "MissingConstructor \x7b kind: " ++ Text.quoted kind ++ ", shape: " ++ shape.name ++ " \x7d"

/-- Why a history cannot be replayed. -/
inductive ReplayError (Id : Type) where
  | aggregateMismatch (expected found : Id) (event : Uuid)
  | outOfSequence (expected : Nat) (found : Option Nat) (event : Uuid)
  | pendingChanges (pending : Nat)
  deriving DecidableEq

/-- The wording of an event of another aggregate. -/
def foreignEventMessage {Id : Type} [Identifier Id] (expected found : Id) (event : Uuid) : String :=
  "event " ++ event.text ++ " belongs to aggregate " ++ Identifier.text found ++ ", not " ++
    Identifier.text expected

/-- The wording of a failure. -/
def ReplayError.message {Id : Type} [Identifier Id] : ReplayError Id → String
  | .aggregateMismatch expected found event => foreignEventMessage expected found event
  | .outOfSequence expected found event =>
    "event " ++ event.text ++ " is out of sequence: expected version " ++ toString expected ++
      ", found " ++ Text.optional (found.map fun n => toString n)
  | .pendingChanges pending =>
    "cannot replay history beneath " ++ toString pending ++ " uncommitted event(s)"

/-- Why pending events cannot be committed. -/
inductive FlushError (Id : Type) where
  | emptyAggregateId (event : Uuid)
  | aggregateMismatch (expected found : Id) (event : Uuid)
  | alreadyCommitted (event : Uuid) (version : Nat)
  deriving DecidableEq

/-- The wording of a failure. -/
def FlushError.message {Id : Type} [Identifier Id] : FlushError Id → String
  | .emptyAggregateId event => "event " ++ event.text ++ " has an empty aggregate identifier"
  | .aggregateMismatch expected found event => foreignEventMessage expected found event
  | .alreadyCommitted event version =>
    "event " ++ event.text ++ " was already committed at version " ++ toString version

/-- One aggregate in memory. -/
structure Root {Id : Type} (A : Aggregate Id) where
  id : Id
  /-- The version of the last committed event. -/
  version : Nat
  tenant : Option String
  /-- The state after all events; nothing before the first one. -/
  state : Option A.State
  /-- The events that are not committed yet, the oldest first. -/
  pending : List (Envelope Id A.Event)
  deleted : Bool
  deletedAt : Option Instant
  /-- What new events carry. -/
  originator : Originator

namespace Root

variable {Id : Type} {A : Aggregate Id}

/-- A root without events at a version. -/
def bare (A : Aggregate Id) (id : Id) (version : Nat) (tenant : Option String) : Root A where
  id := id
  version := version
  tenant := tenant
  state := none
  pending := []
  deleted := false
  deletedAt := none
  originator := .unknown

/-- A new aggregate whose last committed version is given. -/
def start [Identifier Id] (A : Aggregate Id) (id : Id) (version : Nat) :
    Except ConstructionError (Root A) :=
  if Identifier.isEmpty id then .error (.emptyId A.kind) else .ok (bare A id version none)

/-- A root on which history is replayed.  It must have a tenant exactly if the kind asks for one,
which is looked at first. -/
def shell [Identifier Id] (A : Aggregate Id) (id : Id) (version : Option Nat)
    (tenant : Option String) : Except ConstructionError (Root A) :=
  let shape : ShellShape := ⟨version.isSome, tenant.isSome⟩
  if shape.fits A.tenantScoped then
    if Identifier.isEmpty id then .error (.emptyId A.kind)
    else .ok (bare A id (version.getD 0) tenant)
  else .error (.missingConstructor A.kind shape)

/-! ### Calls -/

/-- A call that changes a root in place and may fail. -/
abbrev InPlace {Id : Type} (A : Aggregate Id) (ε α : Type) : Type := ExceptT ε (StateM (Root A)) α

namespace InPlace

variable {ε α : Type}

/-- An answer that is there already. -/
def of (answer : Except ε α) : InPlace A ε α := fun r => (answer, r)

/-- The answer of a call together with the root behind it, if the call passes. -/
def passed (call : InPlace A ε α) (r : Root A) : Except ε (α × Root A) :=
  match call r with
  | (.ok a, behind) => .ok (a, behind)
  | (.error e, _) => .error e

end InPlace

/-- The state, or the one before the first event. -/
def stateOrInitial (r : Root A) : A.State := r.state.getD A.initial

/-! ### New events -/

/-- Folds an event into the state and puts it behind the pending ones.  Whether it belongs to the
aggregate is looked at when it is committed. -/
def record (e : Envelope Id A.Event) (r : Root A) : Root A :=
  { r with state := some (A.apply e.payload r.stateOrInitial), pending := r.pending ++ [e] }

/-- Records a new event of the aggregate. -/
def apply (stamp : Stamp) (payload : A.Event) (r : Root A) : Root A :=
  r.record (.new stamp r.id r.originator payload)

/-- Records new events in order; the `i`-th one gets the `i`-th stamp. -/
def applyAll (stamps : Nat → Stamp) : List A.Event → Root A → Root A
  | [], r => r
  | e :: rest, r => applyAll (fun i => stamps (i + 1)) rest (r.apply (stamps 0) e)

/-- Carries out a command: records the events that answer it and returns their number. -/
def InPlace.execute (stamps : Nat → Stamp) (command : Command A) : InPlace A A.Error Nat := do
  let events ← InPlace.of (command (← get).stateOrInitial)
  modify (applyAll stamps events)
  return events.length

/-- The number of the events that answer a command, and the root behind them. -/
def execute (stamps : Nat → Stamp) (command : Command A) (r : Root A) :
    Except A.Error (Nat × Root A) :=
  (InPlace.execute stamps command).passed r

/-! ### Committing -/

/-- Why an event cannot be committed to an aggregate. -/
def flushFault? [Identifier Id] (id : Id) (e : Envelope Id A.Event) : Option (FlushError Id) :=
  if Identifier.isEmpty e.aggregate then some (.emptyAggregateId e.id)
  else if e.aggregate ≠ id then some (.aggregateMismatch id e.aggregate e.id)
  else e.version.map fun version => .alreadyCommitted e.id version

/-- The pending events with their versions, if each can be committed. -/
def stage [Counting] [Identifier Id] (r : Root A) :
    Except (FlushError Id) (List (Envelope Id A.Event)) :=
  match r.pending.findSome? (flushFault? r.id) with
  | some fault => .error fault
  | none => .ok (Envelope.committedFrom r.version r.pending)

/-- The root once the given events are committed. -/
def complete [Counting] (committed : List (Envelope Id A.Event)) (r : Root A) : Root A :=
  { r with version := plus r.version committed.length, pending := [] }

/-- Commits the pending events. -/
def InPlace.flush [Counting] [Identifier Id] :
    InPlace A (FlushError Id) (List (Envelope Id A.Event)) := do
  let committed ← InPlace.of (← get).stage
  modify (complete committed)
  return committed

/-- The pending events as committed ones, and the root behind them. -/
def flush [Counting] [Identifier Id] (r : Root A) :
    Except (FlushError Id) (List (Envelope Id A.Event) × Root A) :=
  InPlace.flush.passed r

/-! ### Replaying -/

/-- The first problem of a history that is to follow `version`. -/
def replayFault? [Counting] [Identifier Id] (id : Id) :
    (version : Nat) → List (Envelope Id A.Event) → Option (ReplayError Id)
  | _, [] => none
  | version, e :: rest =>
    if e.aggregate ≠ id then some (.aggregateMismatch id e.aggregate e.id)
    else if e.version ≠ some (plus version 1) then
      some (.outOfSequence (plus version 1) e.version e.id)
    else replayFault? id (plus version 1) rest

/-- The root with history behind it that has been found in order. -/
def replayed [Counting] (history : List (Envelope Id A.Event)) (r : Root A) : Root A :=
  match history with
  | [] => r
  | _ :: _ =>
    { r with
      state := some (A.fold r.stateOrInitial (history.map Envelope.payload))
      version := plus r.version history.length }

/-- Replays committed history. -/
def InPlace.rehydrate [Counting] [Identifier Id] (history : List (Envelope Id A.Event)) :
    InPlace A (ReplayError Id) Unit := do
  let r ← get
  if r.pending ≠ [] then
    throw (.pendingChanges r.pending.length)
  match replayFault? r.id r.version history with
  | some fault => throw fault
  | none => modify (replayed history)

/-- The root behind committed history. -/
def rehydrate [Counting] [Identifier Id] (history : List (Envelope Id A.Event)) (r : Root A) :
    Except (ReplayError Id) (Root A) :=
  ((InPlace.rehydrate history).passed r).map Prod.snd

/-! ### Deletion -/

/-- Marks the aggregate as deleted; if it is marked already, the earlier time stays. -/
def markDeleted (now : Instant) (r : Root A) : Root A :=
  if r.deleted then r else { r with deleted := true, deletedAt := some now }

/-- Takes the mark away. -/
def undelete (r : Root A) : Root A := { r with deleted := false, deletedAt := none }

/-! ### Diagnostics -/

/-- The form of a root in diagnostics. -/
def diagnostic [Identifier Id] (r : Root A) : String :=
  let yes (b : Bool) := if b then "true" else "false"
  "AggregateRoot \x7b kind: " ++ Text.quoted A.kind ++ ", id: " ++ Identifier.diagnostic r.id ++
    ", version: " ++ toString r.version ++ ", tenant_id: " ++ Text.quotedOption r.tenant ++
    ", initialized: " ++ yes r.state.isSome ++ ", uncommitted: " ++ toString r.pending.length ++
    ", deleted: " ++ yes r.deleted ++ ", .. \x7d"

/-- The form of a shared root in diagnostics. -/
def sharedDiagnostic (_ : Root A) : String :=
  "SharedAggregate \x7b kind: " ++ Text.quoted A.kind ++ ", .. \x7d"

end Root
end EventSourcing
