import EventSourcing.Aggregate.Subject
import EventSourcing.Sample.Account
import EventSourcing.Sample.Counter
import EventSourcing.Sample.Gauge
import EventSourcing.Sample.Meter
import EventSourcing.Sample.Post
import EventSourcing.Sample.Stock

/-!
# The catalog of sample aggregates

Each kind of aggregates with its commands, and all kinds together.

## Main Definitions

* `Catalog.counter`, `Catalog.ledger`, … — the kinds with their commands.
* `Catalog.entries`, `Catalog.find?` — all of them.
-/

namespace EventSourcing.Sample.Catalog

/-- Counters. -/
def counter : Subject String where
  aggregate := Sample.counter
  commands := [⟨"add", .record "Add" (.cons "amount" .i64 .nil), fun v => Counter.add v.1⟩]
  violation v := v
  decEqEvent := inferInstanceAs (DecidableEq CounterEvent)

/-- Ledgers. -/
def ledger : Subject String where
  aggregate := Sample.ledger
  commands := [⟨"add", .record "Add" (.cons "amount" .i64 .nil), fun v => Ledger.add v.1⟩]
  violation v := v
  decEqEvent := inferInstanceAs (DecidableEq CounterEvent)

/-- Posts. -/
def post : Subject PostId where
  aggregate := Sample.post
  commands := [
    ⟨"draft", .record "Draft" (.cons "title" .string (.cons "author" .string .nil)),
      fun v => Post.draft v.1 v.2.1⟩,
    ⟨"retitle", .record "Retitle" (.cons "title" .string .nil), fun v => Post.retitle v.1⟩,
    ⟨"publish", .record "Publish" .nil, fun _ => Post.publish⟩]
  violation v := v
  decEqEvent := inferInstanceAs (DecidableEq PostEvent)

/-- Accounts. -/
def account : Subject AccountId where
  aggregate := Sample.account
  commands := [
    ⟨"open", .record "Open" (.cons "owner" .string .nil), fun v => Account.openFor v.1⟩,
    ⟨"deposit", .record "Deposit" (.cons "amount" .i64 .nil), fun v => Account.deposit v.1⟩,
    ⟨"withdraw", .record "Withdraw" (.cons "amount" .i64 .nil), fun v => Account.withdraw v.1⟩]
  violation v := v
  decEqEvent := inferInstanceAs (DecidableEq AccountEvent)

/-- Stock items. -/
def stockItem : Subject Slug where
  aggregate := Sample.stockItem
  commands := [
    ⟨"receive", .record "Receive" (.cons "lot" .string (.cons "units" .u32 (.cons "cost"
      (.option .i64) .nil))), fun v => Stock.receive v.1 v.2.1 v.2.2.1⟩,
    ⟨"ship", .record "Ship" (.cons "units" .u32 .nil), fun v => Stock.ship v.1⟩,
    ⟨"audit", .record "Audit" (.cons "deltas" (.list .i64) .nil), fun v => Stock.audit v.1⟩]
  violation v := v
  decEqEvent := inferInstanceAs (DecidableEq StockEvent)

/-- Meters. -/
def meter : Subject SeqId where
  aggregate := Sample.meter
  commands := [⟨"tick", .record "Tick" (.cons "by" .i32 .nil), fun v => Meter.tick v.1⟩]
  violation v := v
  decEqEvent := inferInstanceAs (DecidableEq Ticked)

/-- Fragile meters. -/
def fragile : Subject FragileId where
  aggregate := Sample.fragile
  commands := [⟨"tick", .record "Tick" (.cons "by" .i32 .nil), fun v => Fragile.tick v.1⟩]
  violation v := v
  decEqEvent := inferInstanceAs (DecidableEq Ticked)

/-- Gauges. -/
def gauge : Subject Int64 where
  aggregate := Sample.gauge
  commands := [⟨"set", .record "Set" Gauge.fields, fun v => Gauge.set v.1 v.2.1⟩]
  violation v := v
  decEqEvent := inferInstanceAs (DecidableEq Gauge)

/-- A kind of aggregates with its type of identifiers. -/
structure Entry : Type 1 where
  Id : Type
  identifier : Identifier Id
  subject : Subject Id

/-- All kinds. -/
def entries : List Entry :=
  [⟨_, inferInstance, counter⟩, ⟨_, inferInstance, ledger⟩, ⟨_, inferInstance, post⟩,
    ⟨_, inferInstance, account⟩, ⟨_, inferInstance, stockItem⟩, ⟨_, inferInstance, meter⟩,
    ⟨_, inferInstance, gauge⟩, ⟨_, inferInstance, fragile⟩]

/-- The kind of a name. -/
def find? (kind : String) : Option Entry :=
  entries.find? fun e => e.subject.aggregate.kind = kind

end EventSourcing.Sample.Catalog
