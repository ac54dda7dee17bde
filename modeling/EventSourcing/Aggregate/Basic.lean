import EventSourcing.Event.EventSet
import EventSourcing.Rule
import EventSourcing.Schema.Form

/-!
# Aggregates

A kind of aggregates: a state that is built from events alone.  A command looks at the state and
answers with events or with a refusal; it changes nothing itself.  How commands are refused is up to
the kind, but a broken rule always is a refusal.

## Main Definitions

* `Aggregate` — a kind of aggregates.
* `Aggregate.fold` — the state after a history.
* `Command` — a command, and `Aggregate.check`, what it says to a rule.
-/

namespace EventSourcing

/-- A kind of aggregates with identifiers of type `Id`. -/
structure Aggregate (Id : Type) : Type 1 where
  /-- The name of the kind, under which its aggregates are stored. -/
  kind : String
  /-- Whether each aggregate of the kind belongs to a tenant. -/
  tenantScoped : Bool
  State : Type
  Event : Type
  /-- Why a command is refused. -/
  Error : Type
  /-- A broken rule as a refusal. -/
  ofViolation : Violation → Error
  /-- The state before the first event. -/
  initial : State
  /-- The state after an event. -/
  apply : Event → State → State
  events : EventSet Event
  /-- How a snapshot keeps a state. -/
  form : JsonForm State

namespace Aggregate

variable {Id : Type} (A : Aggregate Id)

/-- The state after a history. -/
def fold (s : A.State) (history : List A.Event) : A.State :=
  history.foldl (fun s e => A.apply e s) s

@[simp] theorem fold_nil (s : A.State) : A.fold s [] = s := rfl

@[simp] theorem fold_cons (s : A.State) (e : A.Event) (history : List A.Event) :
    A.fold s (e :: history) = A.fold (A.apply e s) history := rfl

theorem fold_append (s : A.State) (h₁ h₂ : List A.Event) :
    A.fold s (h₁ ++ h₂) = A.fold (A.fold s h₁) h₂ := List.foldl_append

/-- Refuses a command if it breaks a rule. -/
def check (r : Rule) : Except A.Error Unit := r.check.mapError A.ofViolation

end Aggregate

/-- A command: the events that answer it in a given state, or a refusal. -/
abbrev Command {Id : Type} (A : Aggregate Id) : Type :=
  A.State → Except A.Error (List A.Event)

end EventSourcing
