import EventSourcing.Aggregate.Root
import EventSourcing.Text.Search

/-!
# Scenarios

A test of one aggregate without a store: given a history, when a command is carried out, then
events, a refusal or a state are expected.  The history is committed before the command, so only
the command's events count.  Time stands still at the epoch.

## Main Definitions

* `Scenario.given`, `Scenario.and`, `Scenario.when` — the history and the command.
* `Outcome` and its `expect…` functions — what became of it.
* `Mismatch` — an expectation that is not met.
-/

namespace EventSourcing

/-- An expectation that is not met, or a scenario that cannot be set up. -/
inductive Mismatch (Id : Type) where
  | construction (e : ConstructionError)
  | flush (e : FlushError Id)
  | otherEvents
  | refusalInsteadOfEvents
  | eventsOrRefusalInsteadOfNone
  | eventsInsteadOfRefusal
  | otherRefusal (expected message : String)
  | refusalInsteadOfState
  | noState
  deriving DecidableEq

/-- The wording of a mismatch. -/
def Mismatch.message {Id : Type} [Identifier Id] : Mismatch Id → String
  | .construction e => "cannot build test aggregate: " ++ e.message
  | .flush e => "cannot commit given events: " ++ e.message
  | .otherEvents => "unexpected events"
  | .refusalInsteadOfEvents => "expected events but got error"
  | .eventsOrRefusalInsteadOfNone => "expected no events but got"
  | .eventsInsteadOfRefusal => "expected error but got events"
  | .otherRefusal expected message =>
    "expected error containing '" ++ expected ++ "' but got: " ++ message
  | .refusalInsteadOfState => "expected state but got error"
  | .noState => "aggregate has no state"

/-- An aggregate with the history that a test gives it. -/
structure Scenario {Id : Type} (A : Aggregate Id) where
  root : Root A

/-- What became of a command: its events or its refusal, and the aggregate behind it. -/
structure Outcome {Id : Type} (A : Aggregate Id) where
  result : Except A.Error (List A.Event)
  root : Root A

namespace Scenario

variable [Counting] {Id : Type} [Identifier Id] {A : Aggregate Id}

/-- The stamps of a scenario: time stands still. -/
def stamps (ids : Nat → Uuid) (i : Nat) : Stamp := ⟨ids i, .epoch⟩

/-- More history. -/
def and (ids : Nat → Uuid) (events : List A.Event) (s : Scenario A) :
    Except (Mismatch Id) (Scenario A) :=
  match (s.root.applyAll (stamps ids) events).flush with
  | .ok (_, root) => .ok ⟨root⟩
  | .error e => .error (.flush e)

/-- A new aggregate with a history. -/
def given (A : Aggregate Id) (ids : Nat → Uuid) (id : Id) (events : List A.Event) :
    Except (Mismatch Id) (Scenario A) :=
  match Root.start A id 0 with
  | .ok root => Scenario.and ids events ⟨root⟩
  | .error e => .error (.construction e)

/-- Carries out a command. -/
def when (ids : Nat → Uuid) (command : Command A) (s : Scenario A) : Outcome A :=
  match Root.InPlace.execute (stamps ids) command s.root with
  | (.ok _, root) => ⟨.ok (root.pending.map Envelope.payload), root⟩
  | (.error e, root) => ⟨.error e, root⟩

end Scenario

namespace Outcome

variable {Id : Type} {A : Aggregate Id} (o : Outcome A)

/-- Expects exactly the given events. -/
def expectEvents [DecidableEq A.Event] (expected : List A.Event) : Except (Mismatch Id) Unit :=
  match o.result with
  | .ok events => if events = expected then .ok () else .error .otherEvents
  | .error _ => .error .refusalInsteadOfEvents

/-- Expects that the command has passed and answered with no events. -/
def expectNoEvents : Except (Mismatch Id) Unit :=
  match o.result with
  | .ok [] => .ok ()
  | _ => .error .eventsOrRefusalInsteadOfNone

/-- Expects a refusal. -/
def expectRefusal : Except (Mismatch Id) Unit :=
  match o.result with
  | .ok _ => .error .eventsInsteadOfRefusal
  | .error _ => .ok ()

/-- Expects a refusal whose wording contains a text. -/
def expectMessage [ToString A.Error] (expected : String) : Except (Mismatch Id) Unit :=
  match o.result with
  | .ok _ => .error .eventsInsteadOfRefusal
  | .error e =>
    if Text.contains expected (toString e) then .ok ()
    else .error (.otherRefusal expected (toString e))

/-- Expects that the command has passed, and returns the state behind it. -/
def expectState : Except (Mismatch Id) A.State :=
  match o.result with
  | .error _ => .error .refusalInsteadOfState
  | .ok _ =>
    match o.root.state with
    | some state => .ok state
    | none => .error .noState

end Outcome
end EventSourcing
