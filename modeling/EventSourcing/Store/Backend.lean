import EventSourcing.Codec
import EventSourcing.Store.Memory

/-!
# Backends

What a repository needs from a store, whatever the store is.  Each operation acts on the state of
the store and either answers or fails; a store also chooses the codec of the payloads.

## Main Definitions

* `Backend` — the operations of a store.
* `Memory.backend` — those of a store in memory.
-/

namespace EventSourcing

/-- The operations of a store with state `σ`. -/
structure Backend (σ Id : Type) where
  /-- The codec of the payloads. -/
  codec : σ → Codec
  get : (kind : String) → Id → StateM σ (Except StoreError (Lookup Id))
  loadEvents : (kind : String) → Id → Window →
    StateM σ (Except StoreError (List (StoredEvent Id)))
  save : (kind : String) → Record Id → (expected : Nat) → List NewEvent →
    StateM σ (Except StoreSaveError Nat)
  contains : (kind : String) → Id → StateM σ (Except StoreError Bool)
  containsAt : (kind : String) → Id → (version : Nat) → StateM σ (Except StoreError Bool)
  box : (kind : String) → Id → Encoding → StateM σ (Except ArchiveError Unit)
  unbox : (kind : String) → Id → Encoding → StateM σ (Except ArchiveError (Record Id))
  expired : (kind : String) → (cutoff : Instant) → StateM σ (Except StoreError (List Id))

/-- The operations of a store in memory whose payloads are written by the given codec. -/
def Memory.backend [Counting] (Id : Type) [Identifier Id] (codec : Codec) :
    Backend (Memory Id) Id where
  codec _ := codec
  get kind id m := (.ok (m.get kind id), m)
  loadEvents kind id window m := (.ok (m.loadEvents kind id window), m)
  save kind record expected events m := m.save kind record expected events
  contains kind id m := (.ok (m.contains kind id), m)
  containsAt kind id version m := (.ok (m.containsAt kind id version), m)
  box kind id encoding m := m.box kind id encoding
  unbox kind id encoding m := m.unbox kind id encoding
  expired kind cutoff m := (.ok (m.expired kind cutoff), m)

end EventSourcing
