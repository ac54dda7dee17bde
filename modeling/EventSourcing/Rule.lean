import EventSourcing.Json.Printer

/-!
# Business rules

A rule is a condition that a command requires.  A broken rule is a refusal with the name of the
rule, a message for the reader and the values that broke it.

A rule is usually named after its type: the name without its path and without its parameters.

## Main Definitions

* `Violation` — a broken rule, and `Violation.text`, its wording.
* `Rule` — a rule about given values, and `Rule.check`.
* `Rule.nameOfType` — the name of a rule that is named after its type.
-/

namespace EventSourcing

/-- A broken rule. -/
structure Violation where
  rule : String
  message : String
  /-- The values that broke the rule, in key order. -/
  parameters : List (String × Json)
  deriving Repr, BEq, Inhabited

/-- The wording of a broken rule. -/
def Violation.text (v : Violation) : String :=
  "business rule `" ++ v.rule ++ "` violated: " ++ v.message

/-- A rule about given values. -/
structure Rule where
  name : String
  message : String
  parameters : List (String × Json)
  broken : Bool

namespace Rule

/-- The part of a path behind its last `::`. -/
def lastSegment : List Char → List Char
  | [] => []
  | ':' :: ':' :: rest => lastSegment rest
  | c :: rest =>
    let tail := lastSegment rest
    if tail.length < rest.length then tail else c :: tail

/-- The name of a rule that is named after its type. -/
def nameOfType (typeName : String) : String :=
  String.ofList (lastSegment (typeName.toList.takeWhile (· ≠ '<')))

/-- The violation of a broken rule. -/
def violation (r : Rule) : Violation where
  rule := r.name
  message := r.message
  parameters := Json.sortMembers r.parameters

/-- Passes if the rule holds. -/
def check (r : Rule) : Except Violation Unit :=
  if r.broken then .error r.violation else .ok ()

example : nameOfType "a::b::AtMost<c::D>" = "AtMost" := by decide +kernel

end Rule
end EventSourcing
