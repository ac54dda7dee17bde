import EventSourcing.Schema.Form
import EventSourcing.Snapshot.Policy
import EventSourcing.Table

/-!
# Snapshot stores

A snapshot is the state of an aggregate at a version.  A snapshot store keeps at most one for each
aggregate, as a JSON tree, and never replaces it by one of the same or an earlier version.  It is
offered a snapshot after every save; its policy decides whether one is taken at all.

## Main Definitions

* `Snapshot` — data of a version.
* `SnapshotMemory` — a store of snapshots in memory.
* `SnapshotMemory.load`, `SnapshotMemory.offer`, `SnapshotMemory.put` — its operations.
-/

namespace EventSourcing

/-- Data of a version. -/
structure Snapshot (α : Type) where
  version : Nat
  data : α

/-- Why a snapshot is not read or not written. -/
inductive SnapshotError where
  | serialization (kind reason : String)
  | deserialization (kind typeName reason : String)
  /-- The store cannot be reached. -/
  | unavailable (reason : String)
  deriving Repr, DecidableEq

/-- The wording of a failure. -/
def SnapshotError.message : SnapshotError → String
  | .serialization kind reason =>
    "failed to serialize snapshot of `" ++ kind ++ "`: " ++ reason
  | .deserialization kind typeName reason =>
    "failed to deserialize snapshot of `" ++ kind ++ "` as " ++ typeName ++ ": " ++ reason
  | .unavailable reason => reason

/-- What becomes of an offer. -/
inductive OfferOutcome where
  /-- The policy asks for no snapshot, so none is made. -/
  | notDue
  /-- A snapshot was made, and the store has one that is as recent. -/
  | superseded
  | stored
  deriving Repr, DecidableEq

/-- Whether a snapshot was made for the offer. -/
def OfferOutcome.created : OfferOutcome → Bool
  | .notDue => false
  | _ => true

/-- Why an offer fails. -/
inductive OfferError where
  /-- No snapshot could be made. -/
  | create (reason : String)
  | snapshot (e : SnapshotError)
  deriving Repr, DecidableEq

/-- The wording of a failure. -/
def OfferError.message : OfferError → String
  | .create reason => "failed to create snapshot: " ++ reason
  | .snapshot e => "snapshot operation failed: " ++ e.message

/-- A store of snapshots in memory. -/
structure SnapshotMemory (Id : Type) where
  policy : SnapshotPolicy
  snapshots : Table (String × Id) (Snapshot Json)

namespace SnapshotMemory

variable {Id : Type} [DecidableEq Id]

/-- The store without snapshots. -/
def empty (policy : SnapshotPolicy) : SnapshotMemory Id := ⟨policy, .empty⟩

instance : Inhabited (SnapshotMemory Id) := ⟨empty default⟩

/-- The snapshot of an aggregate as it is kept. -/
def find? (kind : String) (id : Id) (m : SnapshotMemory Id) : Option (Snapshot Json) :=
  m.snapshots.find? (kind, id)

/-- Keeps a snapshot, whatever is kept already. -/
def put (kind : String) (id : Id) (s : Snapshot Json) (m : SnapshotMemory Id) :
    SnapshotMemory Id :=
  { m with snapshots := m.snapshots.set (kind, id) s }

@[simp] theorem find?_empty (policy : SnapshotPolicy) (kind : String) (id : Id) :
    (empty policy : SnapshotMemory Id).find? kind id = none := rfl

/-- The snapshot that was put is found, and every other one is as it was. -/
theorem find?_put (kind kind' : String) (id id' : Id) (s : Snapshot Json)
    (m : SnapshotMemory Id) :
    (m.put kind id s).find? kind' id' =
      if (kind, id) = (kind', id') then some s else m.find? kind' id' :=
  Table.find?_set (kind, id) (kind', id') s m.snapshots

/-- The version of the snapshot of an aggregate. -/
def versionOf? (kind : String) (id : Id) (m : SnapshotMemory Id) : Option Nat :=
  (m.find? kind id).map Snapshot.version

/-- The number of snapshots. -/
def size (m : SnapshotMemory Id) : Nat := m.snapshots.size

/-- The snapshot of an aggregate, read by a form. -/
def load {α : Type} (form : JsonForm α) (kind : String) (id : Id) (m : SnapshotMemory Id) :
    Except SnapshotError (Option (Snapshot α)) :=
  match m.find? kind id with
  | none => .ok none
  | some s =>
    match form.read s.data with
    | .ok data => .ok (some ⟨s.version, data⟩)
    | .error failure => .error (.deserialization kind form.typeName failure.message)

/-- Offers a snapshot after a save of `count` events on top of version `current`.  It is made only
if the policy asks for it. -/
def offer {α : Type} (form : JsonForm α) (kind : String) (id : Id) (current count : Nat)
    (create : Except String (Snapshot α)) (m : SnapshotMemory Id) :
    Except OfferError OfferOutcome × SnapshotMemory Id :=
  if m.policy.due current count then
    match create with
    | .error reason => (.error (.create reason), m)
    | .ok s =>
      match form.write s.data with
      | .error reason => (.error (.snapshot (.serialization kind reason)), m)
      | .ok data =>
        if (m.find? kind id).any fun kept => s.version ≤ kept.version then (.ok .superseded, m)
        else (.ok .stored, m.put kind id ⟨s.version, data⟩)
  else (.ok .notDue, m)

end SnapshotMemory

/-! ### What a repository needs -/

/-- The operations of a snapshot store with state `τ`. -/
structure SnapshotBackend (τ Id : Type) : Type 1 where
  load : {α : Type} → JsonForm α → (kind : String) → Id →
    StateM τ (Except SnapshotError (Option (Snapshot α)))
  offer : {α : Type} → JsonForm α → (kind : String) → Id → (current count : Nat) →
    (create : Except String (Snapshot α)) → StateM τ (Except OfferError OfferOutcome)

/-- The operations of a snapshot store in memory. -/
def SnapshotMemory.backend (Id : Type) [DecidableEq Id] :
    SnapshotBackend (SnapshotMemory Id) Id where
  load form kind id m := (m.load form kind id, m)
  offer form kind id current count create m := m.offer form kind id current count create

/-- The store that keeps no snapshots and asks for none. -/
def SnapshotBackend.none (τ Id : Type) : SnapshotBackend τ Id where
  load _ _ _ m := (.ok Option.none, m)
  offer _ _ _ _ _ _ m := (.ok .notDue, m)

end EventSourcing
