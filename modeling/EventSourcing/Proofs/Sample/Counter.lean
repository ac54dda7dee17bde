import EventSourcing.Proofs.Event.RoundTrip
import EventSourcing.Proofs.Schema.Trees
import EventSourcing.Sample.Counter

/-!
# Counters are read back

## Main Statements

* `Sample.CounterEvent.restores` — the events of counters are stored and read back.
* `Sample.roundTrips_counter` — the snapshots of counters are read back.
-/

namespace EventSourcing.Sample

/-- The events of counters and ledgers are stored, and read back. -/
theorem CounterEvent.restores : CounterEvent.set.Restores .json := by
  refine EventSet.restores_of_types (by decide) fun t ht => ?_
  have hregular : t.schema.regular = true ∧ t.schema.nesting ≤ Json.maxDepth := by
    revert t
    decide
  exact Codec.restores_json hregular.1 hregular.2

/-- The stored events of counters and ledgers are read back. -/
theorem CounterEvent.roundTrips : CounterEvent.set.RoundTrips .json :=
  CounterEvent.restores.roundTrips

/-- The snapshots of counters are read back. -/
theorem roundTrips_counter : counter.form.RoundTrips :=
  JsonForm.roundTrips_described "Counter" Counter rfl

end EventSourcing.Sample
