import EventSourcing.Aggregate.Basic
import EventSourcing.Sample.Identifiers
import EventSourcing.Text.Blank

/-!
# Stock items

A stock item is received in lots, shipped and recounted.  It belongs to a tenant.

## Main Definitions

* `stockItem` — the kind of aggregates.
* `Stock.receive`, `Stock.ship`, `Stock.audit` — its commands.
-/

namespace EventSourcing.Sample

/-- A recount: the number itself, a difference, or nothing at all left. -/
inductive Recount where
  | exact (n : Int64)
  | delta (n : Int64)
  | void
  deriving DecidableEq

/-- What happens to a stock item. -/
inductive StockEvent where
  | received (lot : String) (units : UInt32) (cost : Option Int64)
  | shipped (units : UInt32)
  | recounted (recount : Recount)
  deriving DecidableEq

namespace StockEvent

/-- Units of a lot arrive. -/
def receivedType : EventType :=
  ⟨"Received", "received", .record "Received" (.cons "lot" .string (.cons "units" .u32 (.cons "cost"
    (.option .i64) .nil)))⟩

/-- Units leave. -/
def shippedType : EventType := ⟨"Shipped", "shipped", .u32⟩

/-- The units are counted again. -/
def recountType : EventType :=
  ⟨"Recount", "stock.recount/v2", .choice "Recount" (.holding "Exact" .i64 (.record "Delta"
    (.cons "by" .i64 .nil) (.bare "Void" .nil)))⟩

/-- The events and their types. -/
def set : EventSet StockEvent where
  types := [receivedType, shippedType, recountType]
  toMember
    | .received lot units cost => .here (lot, units, cost, ())
    | .shipped units => .there (.here units)
    | .recounted (.exact n) => .there (.there (.here (.inl n)))
    | .recounted (.delta n) => .there (.there (.here (.inr (.inl (n, ())))))
    | .recounted .void => .there (.there (.here (.inr (.inr (.inl ())))))
  ofMember
    | .here (lot, units, cost, ()) => .received lot units cost
    | .there (.here units) => .shipped units
    | .there (.there (.here (.inl n))) => .recounted (.exact n)
    | .there (.there (.here (.inr (.inl (n, ()))))) => .recounted (.delta n)
    | .there (.there (.here (.inr (.inr (.inl ()))))) => .recounted .void
  ofMember_toMember e := by
    rcases e with _ | _ | _ | _ | _ <;> rfl
  toMember_ofMember
    | .here (_, _, _, ()) => rfl
    | .there (.here _) => rfl
    | .there (.there (.here (.inl _))) => rfl
    | .there (.there (.here (.inr (.inl (_, ()))))) => rfl
    | .there (.there (.here (.inr (.inr (.inl ()))))) => rfl

end StockEvent

/-- The state of a stock item. -/
structure Stock where
  onHand : Int64
  /-- The units that have arrived of each lot. -/
  lots : TextMap UInt64
  /-- The last cost that was given. -/
  cost : Option Int64

instance : Described Stock where
  schema := .record "Stock" (.cons "on_hand" .i64 (.cons "lots" (.map .u64) (.cons "cost"
    (.option .i64) .nil)))
  toValue s := (s.onHand, s.lots, s.cost, ())
  ofValue v := ⟨v.1, v.2.1, v.2.2.1⟩
  ofValue_toValue _ := rfl

/-- The state of a stock item after an event. -/
def Stock.apply : StockEvent → Stock → Stock
  | .received lot units cost, s =>
    { onHand := s.onHand + Int64.ofNat units.toNat
      lots := s.lots.insert lot ((s.lots.find? lot).getD 0 + units.toUInt64)
      cost := cost <|> s.cost }
  | .shipped units, s => { s with onHand := s.onHand - Int64.ofNat units.toNat }
  | .recounted (.exact n), s => { s with onHand := n }
  | .recounted (.delta n), s => { s with onHand := s.onHand + n }
  | .recounted .void, s => { s with onHand := 0, lots := .empty }

/-- The stock item of which nothing has arrived. -/
def Stock.none : Stock := ⟨0, .empty, Option.none⟩

/-- Stock items, each of which belongs to a tenant. -/
def stockItem : Aggregate Slug where
  kind := "stock-item"
  tenantScoped := true
  State := Stock
  Event := StockEvent
  Error := Violation
  ofViolation v := v
  initial := .none
  apply := Stock.apply
  events := StockEvent.set
  form := .described "Stock" Stock

/-- A lot must have a name. -/
def lotNamed (lot : String) : Rule where
  name := Rule.nameOfType "LotNamed"
  message := "lot must be named"
  parameters := []
  broken := Text.isBlank lot

/-- A value must not exceed a limit; `type` is the type of the two. -/
def atMost (type : String) (value max : Int) : Rule where
  name := Rule.nameOfType ("AtMost<" ++ type ++ ">")
  message := toString value ++ " exceeds " ++ toString max
  parameters := [("value", .int value), ("max", .int max)]
  broken := max < value

/-- There must be enough units in stock. -/
def inStock (s : Stock) (units : UInt32) : Rule where
  name := "in::stock<rule>"
  message := "not enough stock"
  parameters := [("requested", .int units.toNat), ("on_hand", .int s.onHand.toInt),
    ("lots", (Schema.map .u64).toJson s.lots)]
  broken := s.onHand < Int64.ofNat units.toNat

namespace Stock

/-- The greatest number of units that arrive at once. -/
def maxUnits : Nat := 1000

/-- Receives units of a lot. -/
def receive (lot : String) (units : UInt32) (cost : Option Int64) : Command stockItem := fun _ => do
  stockItem.check (lotNamed lot)
  stockItem.check (atMost "u32" units.toNat maxUnits)
  return [StockEvent.received lot units cost]

/-- Ships units; if none are left, the lots are closed. -/
def ship (units : UInt32) : Command stockItem := fun (s : Stock) => do
  stockItem.check (inStock s units)
  return StockEvent.shipped units ::
    if Int64.ofNat units.toNat = s.onHand then [StockEvent.recounted .void] else []

/-- Corrects the count by each of the differences that are not zero. -/
def audit (deltas : List Int64) : Command stockItem := fun _ =>
  .ok ((deltas.filter (· ≠ 0)).map fun n => StockEvent.recounted (.delta n))

end Stock
end EventSourcing.Sample
