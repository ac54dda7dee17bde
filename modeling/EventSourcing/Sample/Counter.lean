import EventSourcing.Aggregate.Root

/-!
# Counters and ledgers

A counter adds amounts and can be reset; it also counts the resets.  A ledger has the same events,
belongs to a tenant and keeps a balance only.

## Main Definitions

* `counter`, `ledger` — the two kinds of aggregates.
* `Counter.add`, `Ledger.add` — their commands.
-/

namespace EventSourcing.Sample

/-- What happens to a counter. -/
inductive CounterEvent where
  | valueAdded (amount : Int64)
  | reset
  deriving DecidableEq

namespace CounterEvent

/-- An amount is added. -/
def valueAddedType : EventType :=
  ⟨"ValueAdded", "value-added", .record "ValueAdded" (.cons "amount" .i64 .nil)⟩

/-- The counter starts again. -/
def resetType : EventType := ⟨"Reset", "reset", .unit "Reset"⟩

/-- The events and their types. -/
def set : EventSet CounterEvent where
  types := [valueAddedType, resetType]
  toMember
    | .valueAdded amount => .here (amount, ())
    | .reset => .there (.here ())
  ofMember
    | .here (amount, ()) => .valueAdded amount
    | .there (.here ()) => .reset
  ofMember_toMember e := by cases e <;> rfl
  toMember_ofMember
    | .here (_, ()) => rfl
    | .there (.here ()) => rfl

end CounterEvent

/-- An amount that is added must be positive. -/
def amountPositive (amount : Int64) : Rule where
  name := Rule.nameOfType "AmountPositive"
  message := "amount must be positive"
  parameters := [("amount", .int amount.toInt)]
  broken := amount ≤ 0

/-- The state of a counter. -/
structure Counter where
  value : Int64
  resets : UInt32
  deriving DecidableEq

instance : Described Counter where
  schema := .record "Counter" (.cons "value" .i64 (.cons "resets" .u32 .nil))
  toValue c := (c.value, c.resets, ())
  ofValue v := ⟨v.1, v.2.1⟩
  ofValue_toValue _ := rfl

/-- The state of a counter after an event. -/
def Counter.apply : CounterEvent → Counter → Counter
  | .valueAdded amount, c => { c with value := c.value + amount }
  | .reset, c => { value := 0, resets := c.resets + 1 }

/-- Counters. -/
def counter : Aggregate String where
  kind := "counter"
  tenantScoped := false
  State := Counter
  Event := CounterEvent
  Error := Violation
  ofViolation v := v
  initial := ⟨0, 0⟩
  apply := Counter.apply
  events := CounterEvent.set
  form := .described "Counter" Counter

/-- Adds an amount. -/
def Counter.add (amount : Int64) : Command counter := fun _ => do
  counter.check (amountPositive amount)
  return [CounterEvent.valueAdded amount]

/-- A new counter for tests, whose identifier must not be empty. -/
def Counter.fixture (id : String) : Except String (Root counter) :=
  (Root.start counter id 0).mapError fun e => "fixture id is non-empty: " ++ e.diagnostic

/-- The state of a ledger. -/
structure Ledger where
  balance : Int64
  deriving DecidableEq

instance : Described Ledger where
  schema := .record "Ledger" (.cons "balance" .i64 .nil)
  toValue l := (l.balance, ())
  ofValue v := ⟨v.1⟩
  ofValue_toValue _ := rfl

/-- The state of a ledger after an event. -/
def Ledger.apply : CounterEvent → Ledger → Ledger
  | .valueAdded amount, l => ⟨l.balance + amount⟩
  | .reset, _ => ⟨0⟩

/-- Ledgers, each of which belongs to a tenant. -/
def ledger : Aggregate String where
  kind := "ledger"
  tenantScoped := true
  State := Ledger
  Event := CounterEvent
  Error := Violation
  ofViolation v := v
  initial := ⟨0⟩
  apply := Ledger.apply
  events := CounterEvent.set
  form := .described "Ledger" Ledger

/-- Adds an amount. -/
def Ledger.add (amount : Int64) : Command ledger := fun _ =>
  .ok [CounterEvent.valueAdded amount]

end EventSourcing.Sample
