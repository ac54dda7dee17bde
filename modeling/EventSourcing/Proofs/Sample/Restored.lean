import EventSourcing.Proofs.Event.RoundTrip
import EventSourcing.Proofs.Schema.Trees
import EventSourcing.Proofs.Snapshot.Offers
import EventSourcing.Sample.Account
import EventSourcing.Sample.Counter
import EventSourcing.Sample.Post

/-!
# What is kept of aggregates is read back

Events are kept as JSON text under their kinds, and states as JSON trees in snapshots.  Where the
schemas are regular, both are read back as they were: every number of a type, and every text
whatever its characters.

## Main Definitions

* `Aggregate.Restored` — all events and all states of an aggregate are read back.

## Main Statements

* `Aggregate.restored_of_regular` — they are where the schemas are regular.
* `Sample.restored` — they are for counters, ledgers, posts and accounts.
-/

namespace EventSourcing

namespace Aggregate

variable {Id : Type} [DecidableEq Id]

/-- All events and all states of an aggregate are read back from what is kept of them. -/
structure Restored (A : Aggregate Id) : Prop where
  /-- Every event is written as JSON, and read back under its kind. -/
  events : A.events.Restores .json
  /-- Every state is loaded again from a store of snapshots that takes it: one where a snapshot is
  due, and the one before is of an earlier version. -/
  states : ∀ (state : A.State) (id : Id) (version current count : Nat) (t : SnapshotMemory Id),
    t.policy.due current count = true →
      (∀ kept, t.find? A.kind id = some kept → kept.version < version) →
        ∃ t', t.offer A.form A.kind id current count (.ok ⟨version, state⟩) = (.ok .stored, t') ∧
          t'.load A.form A.kind id = .ok (some ⟨version, state⟩)

/-- **Regular schemas keep everything**, if no two types of events have one kind. -/
theorem restored_of_regular {A : Aggregate Id} (typeName : String) [d : Described A.State]
    (hform : A.form = .described typeName A.State) (hstate : d.schema.regular = true)
    (hkinds : A.events.kinds.Nodup)
    (htypes : ∀ t ∈ A.events.types, t.schema.regular = true ∧ t.schema.nesting ≤ Json.maxDepth) :
    A.Restored where
  events := by
    refine EventSet.restores_of_types hkinds fun t ht => ?_
    obtain ⟨hregular, hnesting⟩ := htypes t ht
    exact Codec.restores_json hregular hnesting
  states state id version current count t hdue hlater := by
    rw [hform]
    exact SnapshotMemory.load_offer (JsonForm.roundTrips_described typeName A.State hstate) rfl
      hdue hlater

end Aggregate

namespace Sample

/-- **Everything is read back of counters, ledgers, posts and accounts.** -/
theorem restored :
    counter.Restored ∧ ledger.Restored ∧ post.Restored ∧ account.Restored := by
  refine ⟨?_, ?_, ?_, ?_⟩
  · exact Aggregate.restored_of_regular "Counter" (d := inferInstanceAs (Described Counter)) rfl
      rfl (by decide) (by decide)
  · exact Aggregate.restored_of_regular "Ledger" (d := inferInstanceAs (Described Ledger)) rfl
      rfl (by decide) (by decide)
  · exact Aggregate.restored_of_regular "Post" (d := inferInstanceAs (Described Post)) rfl
      rfl (by decide) (by decide)
  · exact Aggregate.restored_of_regular "Account" (d := inferInstanceAs (Described Account)) rfl
      rfl (by decide) (by decide)

end Sample

end EventSourcing
