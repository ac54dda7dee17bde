import EventSourcing.Event.Originator
import EventSourcing.Version

/-!
# Envelopes

An event together with the circumstances in which it came into being.  An event that has not been
committed yet has no version; a committed one has the version that its aggregate reached by it.

## Main Definitions

* `Envelope` — an event of an aggregate with its circumstances.
* `Stamp` — the identifier and the time that a new event gets.
-/

namespace EventSourcing

/-- An event of an aggregate. -/
structure Envelope (Id Event : Type) where
  /-- The identifier of the event. -/
  id : Uuid
  /-- The aggregate to which it belongs. -/
  aggregate : Id
  /-- The version that the aggregate reached by it, once it is committed. -/
  version : Option Nat
  payload : Event
  /-- When it came into being. -/
  time : Instant
  originator : Originator

/-- What a new event gets from its surroundings. -/
structure Stamp where
  id : Uuid
  time : Instant

namespace Envelope

variable {Id Event : Type}

/-- A new event. -/
def new (stamp : Stamp) (aggregate : Id) (originator : Originator) (payload : Event) :
    Envelope Id Event where
  id := stamp.id
  aggregate := aggregate
  version := none
  payload := payload
  time := stamp.time
  originator := originator

/-- The event as the one by which its aggregate reached a version. -/
def committed (version : Nat) (e : Envelope Id Event) : Envelope Id Event :=
  { e with version := some version }

/-- The same circumstances with another payload. -/
def withPayload {Other : Type} (payload : Other) (e : Envelope Id Event) : Envelope Id Other where
  id := e.id
  aggregate := e.aggregate
  version := e.version
  payload := payload
  time := e.time
  originator := e.originator

/-- The events with the versions that follow `version`, in order. -/
def committedFrom [Counting] : (version : Nat) → List (Envelope Id Event) → List (Envelope Id Event)
  | _, [] => []
  | version, e :: rest => e.committed (plus version 1) :: committedFrom (plus version 1) rest

variable [Counting]

@[simp] theorem length_committedFrom (version : Nat) (es : List (Envelope Id Event)) :
    (committedFrom version es).length = es.length := by
  induction es generalizing version with
  | nil => rfl
  | cons e rest ih => simp [committedFrom, ih]

@[simp] theorem map_payload_committedFrom (version : Nat) (es : List (Envelope Id Event)) :
    (committedFrom version es).map payload = es.map payload := by
  induction es generalizing version with
  | nil => rfl
  | cons e rest ih => simp [committedFrom, committed, ih]

/-- The versions go up by one from event to event. -/
theorem map_version_committedFrom (version : Nat) (es : List (Envelope Id Event)) :
    (committedFrom version es).map Envelope.version =
      (Counting.following version es.length).map some := by
  induction es generalizing version with
  | nil => rfl
  | cons e rest ih =>
    simp [committedFrom, committed, ih, Counting.following_succ]

end Envelope
end EventSourcing
