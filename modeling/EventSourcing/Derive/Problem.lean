import EventSourcing.Source.Fault
import EventSourcing.Text.Similarity

/-!
# Problems of derived declarations

## Main Definitions

* `Derive.Problem` — why nothing is derived from a declaration.
* `Derive.Problem.message` — its wording.
-/

namespace EventSourcing.Derive

/-- Why nothing is derived from a declaration. -/
inductive Problem where
  /-- The settings are no source text of their kind. -/
  | unreadable (fault : Source.Fault)
  /-- The settings are given as the value of their attribute. -/
  | valued (attribute' : String)
  /-- A setting does not name a type. -/
  | noType
  /-- A setting has a value of the wrong kind. -/
  | wrongKind (kind : String)
  /-- A setting is written in a wrong form. -/
  | wrongForm (form : String)
  /-- A setting has a value of the right kind that means nothing. -/
  | wrongValue (value : String)
  /-- A setting is given twice. -/
  | repeated (name : String)
  /-- There is no such setting, among those that are known. -/
  | unknown (name : String) (known : List String)
  /-- A setting is not given. -/
  | missing (name : String)
  /-- The declaration is an enumeration. -/
  | enumeration
  /-- There are no events. -/
  | noEvents
  deriving Repr, DecidableEq

namespace Problem

/-- A name between backquotes. -/
def named (name : String) : String := "`" ++ name ++ "`"

/-- The wording of a problem. -/
def message : Problem → String
  | unreadable fault => fault.message
  | valued a => "Name-value arguments are not supported. Use #[" ++ a ++ "(...)]"
  | noType => "Unsupported shape `expected `key = Type``"
  | wrongKind kind => "Unexpected type " ++ named kind
  | wrongForm form => "Unexpected meta-item format " ++ named form
  | wrongValue value => "Unknown literal value " ++ named value
  | repeated name => "Duplicate field " ++ named name
  | unknown name known =>
    "Unknown field: " ++ named name ++
      match Similarity.suggestion? name known with
      | some k => ". Did you mean " ++ named k ++ "?"
      | none => ""
  | missing name => "Missing field " ++ named name
  | enumeration =>
    "Unsupported shape `enum`. Expected struct with named fields, unnamed fields, or no fields."
  | noEvents => "events(...) must contain at least one event type"

end Problem
end EventSourcing.Derive
