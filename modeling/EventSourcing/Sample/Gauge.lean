import EventSourcing.Aggregate.Basic
import EventSourcing.Identifier.Basic

/-!
# Gauges

A gauge shows what it was last set to.

## Main Definitions

* `gauge` — the kind of aggregates.
* `Gauge.set` — its command.
-/

namespace EventSourcing.Sample

/-- The state of a gauge, which is also what happens to one. -/
structure Gauge where
  value : Option Int64
  tags : List String
  deriving DecidableEq

namespace Gauge

/-- The two fields. -/
def fields : Fields := .cons "value" (.option .i64) (.cons "tags" (.list .string) .nil)

/-- A gauge is set. -/
def setType : EventType := ⟨"GaugeSet", "gauge-set", .record "GaugeSet" fields⟩

/-- The only type of events. -/
def events : EventSet Gauge where
  types := [setType]
  toMember e := .here (e.value, e.tags, ())
  ofMember
    | .here (value, tags, ()) => ⟨value, tags⟩
  ofMember_toMember _ := rfl
  toMember_ofMember
    | .here (_, _, ()) => rfl

end Gauge

instance : Described Gauge where
  schema := .record "Gauge" Gauge.fields
  toValue g := (g.value, g.tags, ())
  ofValue v := ⟨v.1, v.2.1⟩
  ofValue_toValue _ := rfl

/-- Gauges. -/
def gauge : Aggregate Int64 where
  kind := "Gauge_V2"
  tenantScoped := false
  State := Gauge
  Event := Gauge
  Error := Violation
  ofViolation v := v
  initial := ⟨none, []⟩
  apply e _ := e
  events := Gauge.events
  form := .described "Gauge" Gauge

/-- Sets a gauge. -/
def Gauge.set (value : Option Int64) (tags : List String) : Command gauge := fun _ =>
  .ok [Gauge.mk value tags]

end EventSourcing.Sample
