import EventSourcing.Source.Type

/-!
# Patterns in source text

A pattern is a name to bind, a literal or a range, or a structure of patterns.  Several patterns may
stand for one with bars between them.

## Main Definitions

* `PatternReading.pattern` — a pattern without alternatives.
* `PatternReading.alternatives` — a pattern with alternatives.
-/

namespace EventSourcing.PatternReading

open Source

variable (g : Grammar)

/-- Reads a pattern with alternatives, perhaps with a bar in front. -/
def alternatives : Reading Unit := do
  let _ ← takeMark "|"
  g.pattern
  repeatedly do
    let ts ← ahead
    if startsWith "|" ts && !startsWith "||" ts && !startsWith "|=" ts then
      readMark "|"
      g.pattern
      return true
    else return false

/-- What may be an end of a range. -/
def rangeEnds : List String :=
  ["literal", "identifier", "`::`", "`<`", "`self`", "`Self`", "`super`", "`crate`", "`const`"]

/-- Reads an end of a range if there is one, and tells whether there is. -/
def rangeEnd : Reading Bool := do
  let ts ← ahead
  if ended ts || startsWith "|" ts || startsWith "=" ts ||
      (startsWith ":" ts && !startsWith "::" ts) || startsWith "," ts || startsWith ";" ts ||
      startsWithWord "if" ts then
    return false
  if isLiteralNext ts then
    let _ ← readLiteral
  else if startsWithIdentifier ts || startsWith "::" ts || startsWith "<" ts ||
      startsWithAny ["self", "Self", "super", "crate"] ts then
    let _ ← TypeReading.qualifiedPath g true
  else if startsWithWord "const" ts then
    advance
    g.body
  else missing rangeEnds
  return true

/-- Reads the marks of a range, and tells whether its end belongs to it.  Three points mean the same
as two with an equals sign, and are written again as these. -/
def rangeMarks (allowsThreePoints : Bool) : Reading Bool := do
  let ts ← ahead
  if startsWith "..=" ts then
    readMark "..="
    return true
  else if startsWith "..." ts then
    if allowsThreePoints then
      let _ ← held (readMark "...")
      pass [.mark '.' true, .mark '.' true, .mark '=' false]
      return true
    else throw (.expected ["`..=`"] false)
  else
    readMark ".."
    return false

/-- Reads the marks and the end of a range.  An end that belongs to the range must be there.  It
tells whether there is one. -/
def rangeFrom (allowsThreePoints : Bool) : Reading Bool := do
  let closed ← rangeMarks allowsThreePoints
  let found ← rangeEnd g
  if closed && !found then missing ["range upper bound"]
  return found

/-- Reads a row of patterns with alternatives up to the end of the brackets around. -/
def row : Reading Unit := separated (alternatives g)

/-- Reads the pattern of a field, perhaps of its name alone. -/
def field : Reading Unit := do
  let boxed ← takeKeyword "box"
  let byReference ← takeKeyword "ref"
  let mutable' ← takeKeyword "mut"
  if boxed || byReference || mutable' then
    let _ ← readIdentifier
  else
    let named ← readMember
    if startsWith ":" (← ahead) || !named then
      readMark ":"
      alternatives g

/-- Reads the patterns of fields, of which at most `limit` are read, up to the mark for any
others. -/
def fieldsWithin : (limit : Nat) → Reading Unit
  | 0 => return
  | limit + 1 => do
    if ended (← ahead) then return
    Setting.skipAttributes g
    if ← takeMark ".." then return
    field g
    if ended (← ahead) then return
    readMark ","
    fieldsWithin limit

/-- Reads a pattern that starts with a path. -/
def pathPattern : Reading Unit := do
  let shape ← TypeReading.qualifiedPath g true
  let ts ← ahead
  if (shape.any fun s => s.plain) && startsWith "!" ts && !startsWith "!=" ts then
    readMark "!"
    let _ ← readTree
  else if opens .curly ts then
    inBrackets .curly do fieldsWithin g ((← ahead).length + 1)
  else if opens .round ts then inBrackets .round (row g)
  else if startsWith ".." ts then
    let _ ← rangeFrom g true

/-- Reads a pattern that binds a name. -/
def binding : Reading Unit := do
  let _ ← takeKeyword "ref"
  let _ ← takeKeyword "mut"
  if startsWithWord "self" (← ahead) then advance
  else
    let _ ← readIdentifier
  if ← takeMark "@" then g.pattern

/-- What may start a pattern. -/
def starts : List String :=
  ["identifier", "`::`", "`<`", "`_`", "literal", "`const`", "`ref`", "`mut`", "`&`", "parentheses",
    "square brackets", "`..`", "`const`"]

/-- Reads a pattern without alternatives. -/
def pattern : Reading Unit := do
  let ts ← ahead
  let second := ts.drop 1
  if (startsWithIdentifier ts && (startsWith "::" second || startsWith "!" second ||
        opens .curly second || opens .round second || startsWith ".." second)) ||
      (startsWithWord "self" ts && startsWith "::" second) || startsWith "::" ts ||
      startsWith "<" ts || startsWithAny ["Self", "super", "crate"] ts then
    pathPattern g
  else if startsWithWord "_" ts then advance
  else if startsWithWord "box" ts then
    advance
    g.pattern
  else if startsWith "-" ts || isLiteralNext ts || startsWithWord "const" ts then
    let _ ← rangeEnd g
    if startsWith ".." (← ahead) then
      let _ ← rangeFrom g true
  else if startsWithAny ["ref", "mut", "self"] ts || startsWithIdentifier ts then binding g
  else if startsWith "&" ts then
    readMark "&"
    let _ ← takeKeyword "mut"
    g.pattern
  else if opens .round ts then inBrackets .round (row g)
  else if opens .square ts then inBrackets .square (row g)
  else if startsWith ".." ts && !startsWith "..." ts then
    let _ ← rangeFrom g false
  else missing starts

end EventSourcing.PatternReading
