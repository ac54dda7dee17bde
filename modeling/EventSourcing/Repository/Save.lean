import EventSourcing.Repository.Load

/-!
# Saving aggregates

Saving commits the pending events of a root: they get their versions, are encoded and handed to the
store together with the record, under the condition that the stored version is still the one that
the root was loaded at.  A root changes only if the store has accepted the batch.

With snapshots, a successful save offers the state to the snapshot store.  Whatever becomes of the
offer does not change the answer.

## Main Definitions

* `Root.prepared`, `Root.recordAt` — the batch and the record that are handed to the store.
* `ActionOn` — actions on a root and on the stores.
* `Repository.commitInPlace` — saves without snapshots.
* `Repository.saveInPlace` — saves, and offers a snapshot if there are snapshots.
* `Repository.save` — the answer of a save, with the root behind it.
-/

namespace EventSourcing

/-- The events as a store takes them, with the versions that follow `version`. -/
def encodedFrom [Counting] {Id : Type} (A : Aggregate Id) (codec : Codec) :
    (version : Nat) → List (Envelope Id A.Event) → Except (SaveError Id) (List NewEvent)
  | _, [] => .ok []
  | version, e :: rest =>
    match A.events.encode codec e.payload with
    | .error reason => .error (.codec (A.events.kind e.payload) reason)
    | .ok data => do
      return ⟨e.id, A.events.kind e.payload, plus version 1, data, e.time, e.originator⟩ ::
        (← encodedFrom A codec (plus version 1) rest)

/-- The record of a root once it is at a version. -/
def Root.recordAt {Id : Type} {A : Aggregate Id} (version : Nat) (r : Root A) : Record Id where
  aggregate := r.id
  version := version
  tenant := r.tenant
  deleted := r.deleted
  deletedAt := r.deletedAt

/-- What a save hands to the store, with the events as committed ones; or why it hands nothing.  A
caller that presents a version must present the one of the root. -/
def Root.prepared [Counting] {Id : Type} [Identifier Id] {A : Aggregate Id} (codec : Codec)
    (expected : Option Nat) (r : Root A) :
    Except (SaveError Id) (List (Envelope Id A.Event) × List NewEvent) := do
  let presented := expected.getD r.version
  if presented ≠ r.version then
    throw (.conflict ⟨presented, r.version⟩)
  let committed ← r.stage.mapError .flush
  let batch ← encodedFrom A codec r.version committed
  return (committed, batch)

/-- A refusal of the store as a refusal of the repository. -/
def SaveError.ofStore {Id : Type} (kind : String) (id : Id) : StoreSaveError → SaveError Id
  | .conflict c => .conflict c
  | .archived => .archived kind id
  | .nonContiguous expected found => .invalidBatch expected found
  | .store e => .store e

/-- An action on a root in place and on the stores, which may fail. -/
abbrev ActionOn {Id : Type} (A : Aggregate Id) (σ τ ε α : Type) : Type :=
  ExceptT ε (StateM (Root A × σ × τ)) α

namespace ActionOn

variable {Id σ τ ε α : Type} {A : Aggregate Id}

/-- An action on the stores only. -/
def stores (action : Action σ τ ε α) : ActionOn A σ τ ε α :=
  fun (root, s) =>
    let (answer, s) := action s
    (answer, root, s)

/-- An action as one on the stores: it answers with the root behind it as well, if it passes. -/
def passed (action : ActionOn A σ τ ε α) (root : Root A) : Action σ τ ε (α × Root A) := fun s =>
  match action (root, s) with
  | (.ok a, behind, s) => (.ok (a, behind), s)
  | (.error e, _, s) => (.error e, s)

end ActionOn

namespace Repository

variable [Counting] {σ τ Id : Type} [Identifier Id] (R : Repository σ τ Id) {A : Aggregate Id}

/-- Commits the pending events of a root: what has been prepared is handed to the store, and the
root changes once the store has accepted it. -/
def commitInPlace (expected : Option Nat) :
    ActionOn A σ τ (SaveError Id) (List (Envelope Id A.Event)) := do
  let (root, _) ← get
  let codec := R.store.codec (← ActionOn.stores Action.storeState)
  let (committed, batch) ← ActionOn.stores (Action.of (root.prepared codec expected))
  let record := root.recordAt (plus root.version committed.length)
  let _ ← ActionOn.stores (Action.onStore (.ofStore A.kind root.id)
    (R.store.save A.kind record root.version batch))
  modify fun (root, s) => (root.complete committed, s)
  return committed

/-- Offers the state of a root behind a save on top of version `current`. -/
def offerSnapshot (root : Root A) (current count : Nat) : Action σ τ (SaveError Id) Unit :=
  match R.snapshots, root.state with
  | some snapshots, some state => do
    let _ ← Action.onSnapshots
      (snapshots.offer A.form A.kind root.id current count (.ok ⟨root.version, state⟩))
  | _, _ => pure ()

/-- Saves a root in place, and answers with the committed events. -/
def saveInPlace (expected : Option Nat) :
    ActionOn A σ τ (SaveError Id) (List (Envelope Id A.Event)) := do
  let (root, _) ← get
  let committed ← R.commitInPlace expected
  let (saved, _) ← get
  ActionOn.stores (R.offerSnapshot saved root.version committed.length)
  return committed

/-- The committed events of a save, and the root behind them. -/
def save (root : Root A) (expected : Option Nat) :
    Action σ τ (SaveError Id) (List (Envelope Id A.Event) × Root A) :=
  (R.saveInPlace expected).passed root

end Repository
end EventSourcing
