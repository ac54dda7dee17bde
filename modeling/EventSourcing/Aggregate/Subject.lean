import EventSourcing.Aggregate.Basic

/-!
# Commands by name

Commands reach an aggregate as documents: a name, and arguments in the form that a schema gives.

## Main Definitions

* `NamedCommand` — a command with the form of its arguments.
* `Subject` — a kind of aggregates with its commands.
* `Subject.command?` — the command of a name and arguments.
-/

namespace EventSourcing

/-- A command with the form of its arguments. -/
structure NamedCommand {Id : Type} (A : Aggregate Id) where
  name : String
  arguments : Schema
  run : arguments.Value → Command A

/-- A kind of aggregates with its commands. -/
structure Subject (Id : Type) : Type 1 where
  aggregate : Aggregate Id
  commands : List (NamedCommand aggregate)
  /-- The broken rule behind a refusal. -/
  violation : aggregate.Error → Violation
  /-- Its events can be compared. -/
  decEqEvent : DecidableEq aggregate.Event

namespace Subject

variable {Id : Type} (s : Subject Id)

/-- A refusal is shown as the broken rule. -/
instance : CoeOut s.aggregate.Error Violation := ⟨s.violation⟩

/-- The wording of a refusal. -/
instance : ToString s.aggregate.Error := ⟨fun e => (s.violation e).text⟩

/-- The command of a name and arguments, if there is such a command and the arguments have its
form. -/
def command? (name : String) (arguments : Json) : Option (Command s.aggregate) := do
  let c ← s.commands.find? fun c => c.name = name
  let v ← (c.arguments.ofJson arguments).toOption
  return c.run v

end Subject
end EventSourcing
