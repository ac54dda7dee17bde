import EventSourcing.Aggregate.Basic
import EventSourcing.Sample.Identifiers

/-!
# Meters

A meter sums up ticks and counts them.  A fragile meter keeps the sum only; its identifiers cannot
always be stored.

## Main Definitions

* `meter`, `fragile` — the two kinds of aggregates.
* `Meter.tick`, `Fragile.tick` — their commands.
-/

namespace EventSourcing.Sample

/-- A meter ticks. -/
structure Ticked where
  size : Int32
  deriving DecidableEq

namespace Ticked

/-- A meter ticks. -/
def type : EventType :=
  ⟨"HTTPTicked2", "http-ticked2", .record "HTTPTicked2" (.cons "by" .i32 .nil)⟩

/-- The only type of events. -/
def set : EventSet Ticked where
  types := [type]
  toMember e := .here (e.size, ())
  ofMember
    | .here (size, ()) => ⟨size⟩
  ofMember_toMember _ := rfl
  toMember_ofMember
    | .here (_, ()) => rfl

end Ticked

/-- The state of a meter. -/
structure Meter where
  total : Int64
  ticks : UInt64
  deriving DecidableEq

instance : Described Meter where
  schema := .record "Meter" (.cons "total" .i64 (.cons "ticks" .u64 .nil))
  toValue m := (m.total, m.ticks, ())
  ofValue v := ⟨v.1, v.2.1⟩
  ofValue_toValue _ := rfl

/-- The state of a meter after a tick. -/
def Meter.apply (e : Ticked) (m : Meter) : Meter :=
  ⟨m.total + e.size.toInt64, m.ticks + 1⟩

/-- Meters. -/
def meter : Aggregate SeqId where
  kind := "meter"
  tenantScoped := false
  State := Meter
  Event := Ticked
  Error := Violation
  ofViolation v := v
  initial := ⟨0, 0⟩
  apply := Meter.apply
  events := Ticked.set
  form := .described "Meter" Meter

/-- Ticks. -/
def Meter.tick (size : Int32) : Command meter := fun _ => .ok [Ticked.mk size]

/-- The state of a fragile meter. -/
structure Fragile where
  total : Int64
  deriving DecidableEq

instance : Described Fragile where
  schema := .record "Fragile" (.cons "total" .i64 .nil)
  toValue m := (m.total, ())
  ofValue v := ⟨v.1⟩
  ofValue_toValue _ := rfl

/-- The state of a fragile meter after a tick. -/
def Fragile.apply (e : Ticked) (m : Fragile) : Fragile := ⟨m.total + e.size.toInt64⟩

/-- Fragile meters. -/
def fragile : Aggregate FragileId where
  kind := "fragile"
  tenantScoped := false
  State := Fragile
  Event := Ticked
  Error := Violation
  ofViolation v := v
  initial := ⟨0⟩
  apply := Fragile.apply
  events := Ticked.set
  form := .described "Fragile" Fragile

/-- Ticks. -/
def Fragile.tick (size : Int32) : Command fragile := fun _ => .ok [Ticked.mk size]

end EventSourcing.Sample
