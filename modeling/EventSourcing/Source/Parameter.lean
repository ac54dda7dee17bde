import EventSourcing.Source.Type

/-!
# Parameters of definitions

What is defined may have parameters between angle brackets: lifetimes, types and constants, with
bounds and defaults.  Behind `where` stand further bounds.  In front of a definition stands what can
see it.

## Main Definitions

* `Parameter` — a parameter.
* `ParameterReading.parameters` — the parameters with their angle brackets.
* `ParameterReading.whereClause` — the bounds behind `where`.
* `ParameterReading.visibility` — what can see a definition.
-/

namespace EventSourcing

/-- A parameter of a definition. -/
structure Parameter where
  name : String
  isLifetime : Bool
  /-- Whether a comma stands behind it. -/
  hasComma : Bool
  deriving Repr, DecidableEq

namespace ParameterReading

open Source

variable (g : Grammar)

/-! ### Bounds -/

/-- Reads bounds, each but the last one with a plus sign behind it, up to what stops them. -/
def bounds (stops : List Token → Bool) : Reading Unit :=
  repeatedly do
    if stops (← ahead) then return false
    let _ ← TypeReading.bound g false true
    takeMark "+"

/-- Reads bounds as `bounds` does, which are lifetimes. -/
def lifetimeBounds (stops : List Token → Bool) : Reading Unit :=
  repeatedly do
    if stops (← ahead) then return false
    readLifetime
    takeMark "+"

/-- Reads bounds with plus signs between them and perhaps also at the end.  Only what stops them may
follow. -/
def boundsUpTo (allowsConst : Bool) (stops : List Token → Bool) : Reading Unit :=
  repeatedly do
    if stops (← ahead) then return false
    let _ ← TypeReading.bound g false allowsConst
    if stops (← ahead) then return false
    readMark "+"
    return true

/-! ### Parameters -/

/-- Whether a parameter or the list of them ends here. -/
def endsParameter (ts : List Token) : Bool := ended ts || startsWith "," ts || startsWith ">" ts

/-- Reads a lifetime with its bounds. -/
def lifetimeParameter : Reading Unit := do
  readLifetime
  if ← takeMark ":" then lifetimeBounds endsParameter

/-- Reads a parameter for types, with its bounds and its default. -/
def typeParameter : Reading Unit := do
  let _ ← readIdentifier
  if ← takeMark ":" then bounds g fun ts => endsParameter ts || startsWith "=" ts
  if ← takeMark "=" then
    let _ ← g.type true

/-- Reads a parameter for constants, with its type and its default. -/
def constantParameter : Reading String := do
  readKeyword "const"
  let name ← readIdentifier
  readMark ":"
  let _ ← g.type true
  if ← takeMark "=" then
    let ts ← ahead
    if startsWithIdentifier ts then advance
    else if TypeReading.isConstantNext ts then TypeReading.constant g
    else if ended ts then throw (.refused "unexpected end of input")
    else throw (.leftover none)
  return name

/-- Reads the parameters up to the closing angle bracket, of which at most `limit` are read. -/
def parametersWithin : (limit : Nat) → Reading (List Parameter)
  | 0 => return []
  | limit + 1 => do
    if startsWith ">" (← ahead) then return []
    Setting.skipAttributes g
    let (isLifetime, name) ← do
      match ← ahead with
      | .lifetime name :: _ =>
        lifetimeParameter
        pure (true, name)
      | .word "const" :: _ => pure (false, ← constantParameter g)
      | .word name :: rest =>
        if name = "_" then advance
        else if startsWithIdentifier (.word name :: rest) then typeParameter g
        else missing ["lifetime", "identifier", "`const`"]
        pure (false, name)
      | _ => missing ["lifetime", "identifier", "`const`"]
    if startsWith ">" (← ahead) then return [⟨name, isLifetime, false⟩]
    readMark ","
    return ⟨name, isLifetime, true⟩ :: (← parametersWithin limit)

/-- Reads the parameters with their angle brackets, if there are any. -/
def parameters : Reading (List Parameter) := do
  if ← takeMark "<" then
    let found ← parametersWithin g ((← ahead).length + 1)
    readMark ">"
    return found
  else return []

/-- Whether an angle bracket opens parameters, and not a type in front of a path. -/
def opensParameters (ts : List Token) : Bool :=
  let second := ts.drop 1
  let third := ts.drop 2
  startsWith "<" ts &&
    (startsWith ">" second || startsWith "#" second || startsWithWord "const" second ||
      ((startsWithLifetime second || startsWithIdentifier second) &&
        (startsWith ">" third || startsWith "," third || startsWith "=" third ||
          (startsWith ":" third && !startsWith "::" third))))

/-! ### Further bounds -/

/-- Whether a bound behind `where` or the list of them ends here. -/
def endsPredicate (ts : List Token) : Bool :=
  ended ts || opens .curly ts || startsWith "," ts || startsWith ";" ts || startsWith "=" ts ||
    (startsWith ":" ts && !startsWith "::" ts)

/-- Reads a lifetime or a type with its bounds. -/
def predicate : Reading Unit := do
  let ts ← ahead
  if startsWithLifetime ts && startsWith ":" (ts.drop 1) then
    advance
    readMark ":"
    lifetimeBounds fun ts => endsPredicate ts || startsWith ":" ts
  else
    if startsWithWord "for" ts then TypeReading.binder g
    let _ ← g.type true
    readMark ":"
    bounds g endsPredicate

/-- Reads the bounds behind `where` if there are any, and tells whether there are. -/
def whereClause : Reading Bool := do
  if ← takeKeyword "where" then
    if opensParameters (← ahead) then
      throw (.refused "generic parameters on `where` clauses are reserved for future use")
    repeatedly do
      if endsPredicate (← ahead) then return false
      predicate g
      takeMark ","
    return true
  else return false

/-! ### Visibility -/

/-- Reads what can see a definition, and tells whether there is such a thing.  Behind `pub` there
may be the place in parentheses from which it can be seen. -/
def visibility : Reading Bool := do
  if ← takeKeyword "pub" then
    match ← ahead with
    | .opening .round :: .word w :: ts =>
      if ["crate", "self", "super"].contains w then
        if ended ts then advanceTree
      else if w = "in" then
        inBrackets .round do
          advance
          let _ ← TypePath.read
    | _ => pure ()
    return true
  else return false

end ParameterReading
end EventSourcing
