import EventSourcing.Store.Archive
import EventSourcing.Store.Window
import EventSourcing.Table
import EventSourcing.Version

/-!
# Stores in memory

A store keeps aggregates under their kind and identifier.  An aggregate is live, with its record
and its history, or archived, as a document.  Saving is all or nothing: a batch is appended only if
its versions continue the version that the caller expects and that version is the stored one.

Each operation is a function of the store, so what it changes can be read off its result.

## Main Definitions

* `Slot`, `Memory` — one aggregate, and a store.
* `Memory.save` — appends events and replaces the record.
* `Memory.box`, `Memory.unbox` — moves an aggregate to the archive and back.
* `Memory.get`, `Memory.loadEvents`, `Memory.contains`, `Memory.containsAt`, `Memory.expired`,
  `Memory.archiveEncoding?` — the questions.
-/

namespace EventSourcing

/-- One aggregate. -/
inductive Slot (Id : Type) where
  | live (stream : Stream Id)
  | archived (encoding : Encoding) (document : Bytes)

/-- A store in memory. -/
structure Memory (Id : Type) where
  slots : Table (String × Id) (Slot Id)

namespace Memory

variable {Id : Type} [Identifier Id]

/-- The store without aggregates. -/
def empty : Memory Id := ⟨.empty⟩

instance : Inhabited (Memory Id) := ⟨empty⟩

/-- What is stored under a kind and an identifier. -/
def slot? (kind : String) (id : Id) (m : Memory Id) : Option (Slot Id) := m.slots.find? (kind, id)

/-- The store with a slot replaced. -/
def setSlot (kind : String) (id : Id) (slot : Slot Id) (m : Memory Id) : Memory Id :=
  ⟨m.slots.set (kind, id) slot⟩

@[simp] theorem slot?_empty (kind : String) (id : Id) :
    (empty : Memory Id).slot? kind id = none := rfl

/-- A replaced slot is found, and every other one is as it was. -/
theorem slot?_setSlot (kind kind' : String) (id id' : Id) (slot : Slot Id) (m : Memory Id) :
    (m.setSlot kind id slot).slot? kind' id' =
      if (kind, id) = (kind', id') then some slot else m.slot? kind' id' :=
  Table.find?_set (kind, id) (kind', id') slot m.slots

@[simp] theorem slot?_setSlot_self (kind : String) (id : Id) (slot : Slot Id) (m : Memory Id) :
    (m.setSlot kind id slot).slot? kind id = some slot := by
  rw [slot?_setSlot, if_pos rfl]

theorem slot?_setSlot_of_ne {kind kind' : String} {id id' : Id} (h : (kind, id) ≠ (kind', id'))
    (slot : Slot Id) (m : Memory Id) :
    (m.setSlot kind id slot).slot? kind' id' = m.slot? kind' id' := by
  rw [slot?_setSlot, if_neg h]

/-- Replacing a slot by itself changes nothing. -/
theorem setSlot_of_slot? {kind : String} {id : Id} {slot : Slot Id} {m : Memory Id}
    (h : m.slot? kind id = some slot) : m.setSlot kind id slot = m := by
  obtain ⟨slots⟩ := m
  exact congrArg Memory.mk (Table.set_of_find? h)

/-- A replaced slot is put back. -/
theorem setSlot_setSlot_of_slot? {kind : String} {id : Id} {slot : Slot Id} {m : Memory Id}
    (h : m.slot? kind id = some slot) (other : Slot Id) :
    (m.setSlot kind id other).setSlot kind id slot = m := by
  obtain ⟨slots⟩ := m
  exact congrArg Memory.mk (Table.set_set_of_find? h other)

/-- The stream of a live aggregate. -/
def stream? (kind : String) (id : Id) (m : Memory Id) : Option (Stream Id) :=
  match m.slot? kind id with
  | some (.live stream) => some stream
  | _ => none

theorem stream?_eq_some {kind : String} {id : Id} {m : Memory Id} {stream : Stream Id} :
    m.stream? kind id = some stream ↔ m.slot? kind id = some (.live stream) := by
  rw [stream?]
  cases m.slot? kind id with
  | none => simp
  | some slot => cases slot <;> simp

/-! ### Saving -/

/-- The first version that does not continue `version`: what it should be and what it is. -/
def gap? [Counting] : (version : Nat) → List NewEvent → Option (Nat × Nat)
  | _, [] => none
  | version, e :: rest =>
    if e.version = plus version 1 then gap? (plus version 1) rest
    else some (plus version 1, e.version)

/-- Saves a batch of events with the record that holds behind them, if the aggregate is at the
expected version.  Nothing is created for an aggregate without events. -/
def save [Counting] (kind : String) (record : Record Id) (expected : Nat) (events : List NewEvent)
    (m : Memory Id) : Except StoreSaveError Nat × Memory Id :=
  let version := plus expected events.length
  let stored := events.map (NewEvent.stored kind record.aggregate)
  match gap? expected events with
  | some (wanted, found) => (.error (.nonContiguous wanted found), m)
  | none =>
    if record.version ≠ version then (.error (.nonContiguous version record.version), m)
    else
      match m.slot? kind record.aggregate with
      | some (.archived _ _) => (.error .archived, m)
      | some (.live stream) =>
        if stream.record.version = expected then
          (.ok version, m.setSlot kind record.aggregate (.live ⟨record, stream.events ++ stored⟩))
        else (.error (.conflict ⟨expected, stream.record.version⟩), m)
      | none =>
        if expected ≠ 0 then (.error (.conflict ⟨expected, 0⟩), m)
        else if events = [] then (.ok version, m)
        else (.ok version, m.setSlot kind record.aggregate (.live ⟨record, stored⟩))

/-! ### The archive -/

/-- Moves a live aggregate to the archive. -/
def box (kind : String) (id : Id) (encoding : Encoding) (m : Memory Id) :
    Except ArchiveError Unit × Memory Id :=
  match m.slot? kind id with
  | none => (.error .notFound, m)
  | some (.archived _ _) => (.error .alreadyArchived, m)
  | some (.live stream) =>
    match stream.archive encoding with
    | .ok document => (.ok (), m.setSlot kind id (.archived encoding document))
    | .error reason => (.error (.store (.encodeArchive kind encoding reason)), m)

/-- Moves an aggregate back from the archive; the encoding must be the one in which it was
written. -/
def unbox (kind : String) (id : Id) (encoding : Encoding) (m : Memory Id) :
    Except ArchiveError (Record Id) × Memory Id :=
  match m.slot? kind id with
  | none => (.error .notFound, m)
  | some (.live _) => (.error .notArchived, m)
  | some (.archived written document) =>
    if written ≠ encoding then (.error (.encodingMismatch written encoding), m)
    else
      match Stream.restore document with
      | .ok stream => (.ok stream.record, m.setSlot kind id (.live stream))
      | .error failure =>
        (.error (.store (.decodeArchive kind (Stream.typeName Id) failure.message)), m)

/-- The encoding of an archived aggregate. -/
def archiveEncoding? (kind : String) (id : Id) (m : Memory Id) : Option Encoding :=
  match m.slot? kind id with
  | some (.archived encoding _) => some encoding
  | _ => none

/-! ### Questions -/

/-- What the store knows of an aggregate. -/
def get (kind : String) (id : Id) (m : Memory Id) : Lookup Id :=
  match m.slot? kind id with
  | some (.live stream) => .found stream.record
  | some (.archived _ _) => .archived
  | none => .notFound

/-- The events of a live aggregate within a window of versions. -/
def loadEvents (kind : String) (id : Id) (window : Window) (m : Memory Id) :
    List (StoredEvent Id) :=
  match m.stream? kind id with
  | some stream => stream.events.filter fun e => window.contains e.version
  | none => []

/-- Whether there is a live aggregate. -/
def contains (kind : String) (id : Id) (m : Memory Id) : Bool := (m.stream? kind id).isSome

/-- Whether there is a live aggregate with an event of the version. -/
def containsAt (kind : String) (id : Id) (version : Nat) (m : Memory Id) : Bool :=
  (m.stream? kind id).any fun stream => 1 ≤ version && version ≤ stream.record.version

/-- The time of deletion of an aggregate that is marked as deleted. -/
def deletion? (slot : Slot Id) : Option (Instant × Id) :=
  match slot with
  | .live stream =>
    if stream.record.deleted then
      stream.record.deletedAt.map fun time => (time, stream.record.aggregate)
    else none
  | .archived _ _ => none

/-- The order in which expired aggregates are listed: by time of deletion, and at one time by the
text of their identifier. -/
def deletedBefore (a b : Instant × Id) : Bool :=
  if a.1 = b.1 then ¬ Identifier.text b.2 < Identifier.text a.2 else a.1.le b.1

/-- The live aggregates of a kind that were marked as deleted at the cutoff or before, in the order
of deletion. -/
def expired (kind : String) (cutoff : Instant) (m : Memory Id) : List Id :=
  let deletions := m.slots.entries.filterMap fun e =>
    if e.1.1 = kind then deletion? e.2 else none
  ((deletions.filter fun d => d.1.le cutoff).mergeSort deletedBefore).map Prod.snd

/-- The form of a store in diagnostics. -/
def diagnostic (m : Memory Id) : String :=
  "Store \x7b aggregates: " ++ toString m.slots.size ++ ", .. \x7d"

end Memory
end EventSourcing
