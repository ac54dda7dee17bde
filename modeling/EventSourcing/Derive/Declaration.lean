import EventSourcing.Source.Statement

/-!
# Declared types

The declaration of a type has attributes, tells who can see the type, and gives it its name, perhaps
with parameters between angle brackets: lifetimes, types and constants, which may have bounds and
defaults.  Elsewhere the type is written with the names of its parameters alone, the lifetimes
first.

## Main Definitions

* `Declaration` — the attributes, the visibility, the name of a type and its parameters.
* `Declaration.read?` — the declaration of a source text.
* `Declaration.typeText` — the declared type as it is written elsewhere.
-/

namespace EventSourcing

/-- A declared type. -/
structure Declaration where
  attributes : List Setting
  visibility : List Token
  /-- Whether the type is an enumeration. -/
  isEnumeration : Bool
  name : String
  parameters : List Parameter
  deriving Repr, DecidableEq

namespace Declaration

open Source

variable (g : Grammar)

/-- Reads a declaration up to what the type holds. -/
def read : Reading Declaration := do
  let attributes ← Setting.readAttributes g
  let (_, visibility) ← held ParameterReading.visibility
  let isEnumeration := startsWithWord "enum" (← ahead)
  if isEnumeration then advance else readKeyword "struct"
  let name ← readIdentifier
  let parameters ← ParameterReading.parameters g
  return ⟨attributes, visibility, isEnumeration, name, parameters⟩

/-- The declaration of a source text. -/
def read? (source : String) : Option Declaration := do
  let whole (g : Grammar) : Reading Declaration := do
    let declaration ← read g
    let ts ← ahead
    if !(startsWithWord "where" ts || opens .round ts || opens .curly ts || startsWith ";" ts) then
      missing ["`where`", "parentheses", "curly braces", "`;`"]
    advanceTo []
    return declaration
  match Grammar.read whole (← tokens? source) with
  | .ok (declaration, _) => some declaration
  | .error _ => none

/-- A parameter as an argument of the type. -/
def argumentText (p : Parameter) : String := p.name ++ if p.hasComma then "," else ""

/-- The parameters as arguments of the type: a comma is added where the last one has moved to the
front. -/
def argumentsText (ps : List Parameter) : String :=
  let (lifetimes, others) := ps.partition Parameter.isLifetime
  let between :=
    if others ≠ [] && lifetimes.getLast?.any (fun p => !p.hasComma) then "," else ""
  "<" ++ String.join (lifetimes.map argumentText) ++ between ++
    String.join (others.map argumentText) ++ ">"

/-- The declared type as it is written elsewhere. -/
def typeText (d : Declaration) : String :=
  d.name ++ if d.parameters = [] then "" else argumentsText d.parameters

example :
    (read? "struct A<T: B<C, D>, 'e, const N: usize = { 5 > 4 }>;").map typeText =
      some "A<'e,T,N>" := by
  decide +kernel

example : (read? "#[b] pub(in c) enum A<T, 'e> ()").map (fun d => (d.typeText, d.isEnumeration)) =
    some ("A<'e,T,>", true) := by
  decide +kernel

end Declaration
end EventSourcing
