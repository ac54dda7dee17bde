import EventSourcing.Json.Printer
import EventSourcing.Text.Quoted

/-!
# Showing JSON values in diagnostics

Diagnostics show of each value what it is, so that the number `1` and the text `"1"` are told apart.

## Main Definitions

* `Json.inspect`, `Json.inspectMembers` — a value, and the members of an object.
-/

namespace EventSourcing.Json

mutual

/-- A value in diagnostics. -/
def inspect : Json → String
  | .null => "Null"
  | .bool b => if b then "Bool(true)" else "Bool(false)"
  | .int n => "Number(" ++ toString n ++ ")"
  | .decimal d => "Number(" ++ (Json.decimal d).text ++ ")"
  | .str s => "String(" ++ Text.quoted s ++ ")"
  | .arr items => "Array [" ++ inspectItems true items ++ "]"
  | .obj members => "Object \x7b" ++ inspectList true members ++ "\x7d"

/-- The items of a list; the first one has no comma in front. -/
def inspectItems (first : Bool) : List Json → String
  | [] => ""
  | v :: rest => (if first then "" else ", ") ++ v.inspect ++ inspectItems false rest

/-- The members of an object; the first one has no comma in front. -/
def inspectList (first : Bool) : List (String × Json) → String
  | [] => ""
  | (k, v) :: rest =>
    (if first then "" else ", ") ++ Text.quoted k ++ ": " ++ v.inspect ++ inspectList false rest

end

/-- The members of an object between braces. -/
def inspectMembers (members : List (String × Json)) : String :=
  "\x7b" ++ inspectList true members ++ "\x7d"

end EventSourcing.Json
