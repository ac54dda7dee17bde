import EventSourcing.Aggregate.Basic
import EventSourcing.Sample.Identifiers

/-!
# Accounts

An account is opened by its owner; funds are deposited and withdrawn, but never more than there is.

## Main Definitions

* `account` — the kind of aggregates.
* `Account.openFor`, `Account.deposit`, `Account.withdraw` — its commands.
-/

namespace EventSourcing.Sample

/-- What happens to an account. -/
inductive AccountEvent where
  | opened (owner : String)
  | deposited (amount : Int64)
  | withdrawn (amount : Int64)
  deriving DecidableEq

namespace AccountEvent

/-- An account is opened. -/
def openedType : EventType :=
  ⟨"AccountOpened", "account.opened", .record "AccountOpened" (.cons "owner" .string .nil)⟩

/-- Funds are deposited. -/
def depositedType : EventType :=
  ⟨"FundsDeposited", "account.deposited", .record "FundsDeposited" (.cons "amount" .i64 .nil)⟩

/-- Funds are withdrawn. -/
def withdrawnType : EventType :=
  ⟨"FundsWithdrawn", "account.withdrawn", .record "FundsWithdrawn" (.cons "amount" .i64 .nil)⟩

/-- The events and their types. -/
def set : EventSet AccountEvent where
  types := [openedType, depositedType, withdrawnType]
  toMember
    | .opened owner => .here (owner, ())
    | .deposited amount => .there (.here (amount, ()))
    | .withdrawn amount => .there (.there (.here (amount, ())))
  ofMember
    | .here (owner, ()) => .opened owner
    | .there (.here (amount, ())) => .deposited amount
    | .there (.there (.here (amount, ()))) => .withdrawn amount
  ofMember_toMember e := by cases e <;> rfl
  toMember_ofMember
    | .here (_, ()) => rfl
    | .there (.here (_, ())) => rfl
    | .there (.there (.here (_, ()))) => rfl

end AccountEvent

/-- The state of an account. -/
structure Account where
  owner : String
  balance : Int64
  deriving DecidableEq

instance : Described Account where
  schema := .record "Account" (.cons "owner" .string (.cons "balance" .i64 .nil))
  toValue a := (a.owner, a.balance, ())
  ofValue v := ⟨v.1, v.2.1⟩
  ofValue_toValue _ := rfl

/-- The state of an account after an event. -/
def Account.apply : AccountEvent → Account → Account
  | .opened owner, a => { a with owner := owner }
  | .deposited amount, a => { a with balance := a.balance + amount }
  | .withdrawn amount, a => { a with balance := a.balance - amount }

/-- Accounts. -/
def account : Aggregate AccountId where
  kind := "account"
  tenantScoped := false
  State := Account
  Event := AccountEvent
  Error := Violation
  ofViolation v := v
  initial := ⟨"", 0⟩
  apply := Account.apply
  events := AccountEvent.set
  form := .described "Account" Account

/-- No more is withdrawn than there is. -/
def sufficientFunds (balance requested : Int64) : Rule where
  name := Rule.nameOfType "SufficientFunds"
  message := "insufficient funds"
  parameters := [("balance", .int balance.toInt), ("requested", .int requested.toInt)]
  broken := balance < requested

namespace Account

/-- Opens an account. -/
def openFor (owner : String) : Command account := fun _ => .ok [AccountEvent.opened owner]

/-- Deposits funds. -/
def deposit (amount : Int64) : Command account := fun _ => .ok [AccountEvent.deposited amount]

/-- Withdraws funds. -/
def withdraw (amount : Int64) : Command account := fun (a : Account) => do
  account.check (sufficientFunds a.balance amount)
  return [AccountEvent.withdrawn amount]

end Account
end EventSourcing.Sample
