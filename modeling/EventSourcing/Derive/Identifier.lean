import EventSourcing.Text.Quoted
import EventSourcing.Text.WordCharacter

/-!
# Identifiers in source text

A text is an identifier if it starts with a letter or an underscore and goes on with letters, digits
and underscores, in any script.  Code with anything else in the place of an identifier cannot be
built at all.

## Main Definitions

* `Ident.Fault` — why a text is no identifier.
* `Ident.check` — the text if it is one.
-/

namespace EventSourcing.Ident

/-- Why a text is no identifier. -/
inductive Fault where
  | empty
  | number
  | invalid (text : String)
  deriving Repr, DecidableEq

/-- The wording of a fault. -/
def Fault.message : Fault → String
  | .empty => "Ident is not allowed to be empty; use Option<Ident>"
  | .number => "Ident cannot be a number; use Literal instead"
  | .invalid text => Text.quoted text ++ " is not a valid Ident"

/-- Whether characters form an identifier. -/
def isIdent : List Char → Bool
  | [] => false
  | c :: rest => Text.startsName c && rest.all Text.continuesName

/-- The text if it is an identifier. -/
def check (text : String) : Except Fault String :=
  let cs := text.toList
  if cs.isEmpty then .error .empty
  else if cs.all Char.isDigit then .error .number
  else if isIdent cs then .ok text
  else .error (.invalid text)

example : isIdent "_1".toList = true ∧ isIdent "1a".toList = false := by decide +kernel

end EventSourcing.Ident
