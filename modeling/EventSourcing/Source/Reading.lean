import EventSourcing.Source.Fault
import EventSourcing.Source.Tokens

/-!
# Reading source text

A reading walks over tokens.  These are given for the whole of it; what changes is how many of them
have been read, so that whatever a reading does, what stands ahead is a part of the text.  It passes
the tokens on, in the order in which the text is written again, and this is the order in which they
stand except where a part of the grammar asks for another one.  Behind a pair of brackets it notes
what was not read inside of them: this is a fault only if no other one is found.

## Main Definitions

* `Reading` — a reading of source text, and `Reading.run` for all of it.
* `Source.readMark`, `Source.readKeyword`, `Source.readIdentifier` — single things.
* `Source.inBrackets`, `Source.separated` — what stands in brackets, rows with commas.
-/

namespace EventSourcing.Source

/-- How far a reading has come. -/
structure Cursor where
  /-- The number of tokens that have been read. -/
  position : Nat
  /-- What has been passed on, the last token first. -/
  passed : List Token
  /-- The first thing that was left in brackets. -/
  left : Option Fault

end EventSourcing.Source

namespace EventSourcing

/-- A reading of source text. -/
abbrev Reading := ReaderT (List Token) (StateT Source.Cursor (Except Source.Fault))

/-- The result of reading all of some tokens, and the tokens as they are written again. -/
def Reading.run {α : Type} (reading : Reading α) (ts : List Token) :
    Except Source.Fault (α × List Token) := do
  let (a, cursor) ← reading ts ⟨0, [], none⟩
  match cursor.left, ts.drop cursor.position with
  | some fault, _ => throw fault
  | none, _ :: _ => throw (.leftover none)
  | none, [] => return (a, cursor.passed.reverse)

namespace Source

/-- The tokens that are still to be read. -/
def ahead : Reading (List Token) := return (← read).drop (← get).position

/-- Passes tokens on. -/
def pass (ts : List Token) : Reading Unit :=
  modify fun c => { c with passed := ts.reverse ++ c.passed }

/-- Reads up to tokens that stand ahead, whatever comes first. -/
def advanceTo (rest : List Token) : Reading Unit := fun ts c =>
  let position := ts.length - rest.length
  let passed := ((ts.take position).drop c.position).reverse ++ c.passed
  return ((), { c with position, passed })

/-- Reads the next token, whatever it is. -/
def advance : Reading Unit := do advanceTo ((← ahead).drop 1)

/-- Reads the next tree, whatever it is. -/
def advanceTree : Reading Unit := do advanceTo (behindTree (← ahead))

/-- A reading that fails here because one of some things is missing. -/
def missing {α : Type} (choices : List String) : Reading α := do
  throw (.expected choices (ended (← ahead)))

/-- The tokens that a reading passes on, which it does not pass on itself. -/
def held {α : Type} (reading : Reading α) : Reading (α × List Token) := fun ts c => do
  let (a, after) ← reading ts { c with passed := [] }
  return ((a, after.passed.reverse), { after with passed := c.passed })

/-- Carries a reading out if it succeeds. -/
def attempt? {α : Type} (reading : Reading α) : Reading (Option α) := fun ts c =>
  match reading ts c with
  | .ok (a, after) => .ok (some a, after)
  | .error _ => .ok (none, c)

/-- What stands behind a reading, if it succeeds. -/
def behind? {α : Type} (reading : Reading α) (ts : List Token) : Option (List Token) :=
  match reading ts ⟨0, [], none⟩ with
  | .ok (_, cursor) => some (ts.drop cursor.position)
  | .error _ => none

/-- Reads the marks of an operator.  That they are missing is said in the same words at the end. -/
def readMark (marks : String) : Reading Unit := do
  if startsWith marks (← ahead) then advanceTo ((← ahead).drop marks.length)
  else throw (.expected ["`" ++ marks ++ "`"] false)

/-- Reads the marks of an operator if they are next, and tells whether they are. -/
def takeMark (marks : String) : Reading Bool := do
  if startsWith marks (← ahead) then
    readMark marks
    return true
  else return false

/-- Reads a keyword. -/
def readKeyword (w : String) : Reading Unit := do
  if startsWithWord w (← ahead) then advance else missing ["`" ++ w ++ "`"]

/-- Reads a keyword if it is next, and tells whether it is. -/
def takeKeyword (w : String) : Reading Bool := do
  if startsWithWord w (← ahead) then
    advance
    return true
  else return false

/-- The words that are no identifiers. -/
def keywords : List String :=
  ["_", "abstract", "as", "async", "await", "become", "box", "break", "const", "continue", "crate",
    "do", "dyn", "else", "enum", "extern", "false", "final", "fn", "for", "if", "impl", "in", "let",
    "loop", "macro", "match", "mod", "move", "mut", "override", "priv", "pub", "ref", "return",
    "Self", "self", "static", "struct", "super", "trait", "true", "try", "type", "typeof", "unsafe",
    "unsized", "use", "virtual", "where", "while", "yield"]

/-- Whether an identifier is next. -/
def startsWithIdentifier : List Token → Bool
  | .word w :: _ => !keywords.contains w
  | _ => false

/-- Whether an identifier or a keyword is next. -/
def isWordNext : List Token → Bool
  | .word _ :: _ => true
  | _ => false

/-- Reads an identifier. -/
def readIdentifier : Reading String := do
  match ← ahead with
  | .word w :: _ =>
    if keywords.contains w then throw (.keyword w)
    else
      advance
      return w
  | _ => missing ["identifier"]

/-- Reads a lifetime. -/
def readLifetime : Reading Unit := do
  if startsWithLifetime (← ahead) then advance else missing ["lifetime"]

/-- The kind of the literal that is next.  A number may be negative. -/
def literalNext? : List Token → Option LiteralKind
  | .literal kind _ :: _ => some kind
  | .word w :: _ => if w = "true" || w = "false" then some .truth else none
  | .mark '-' _ :: .literal .integer _ :: _ => some .integer
  | .mark '-' _ :: .literal .decimal _ :: _ => some .decimal
  | _ => none

/-- Whether a literal is next. -/
def isLiteralNext (ts : List Token) : Bool := (literalNext? ts).isSome

/-- Reads the literal that is next. -/
def readLiteral : Reading LiteralKind := do
  let ts ← ahead
  match literalNext? ts with
  | some kind =>
    advanceTo (ts.drop (if startsWith "-" ts then 2 else 1))
    return kind
  | none => missing ["literal"]

/-- The greatest number of a member. -/
def greatestMember : Nat := 0xFFFFFFFF

/-- Why the number of a member is refused, if it is.  It may be written with a minus sign. -/
def memberFault? (negative : Bool) (number : List Char) : Option Fault :=
  let (value, suffix) := Literal.whole number
  if suffix ≠ [] then some (.refused "expected unsuffixed integer")
  else if negative then some (.refused "invalid digit found in string")
  else if greatestMember < value then some (.refused "number too large to fit in target type")
  else none

/-- Reads the name or the number of a member, and tells whether it has a name. -/
def readMember : Reading Bool := do
  let ts ← ahead
  if startsWithIdentifier ts then
    advance
    return true
  else if literalNext? ts = some .integer then
    let negative := startsWith "-" ts
    let number := (if negative then ts.drop 1 else ts).head?.elim [] fun t => t.text.toList
    match memberFault? negative number with
    | some fault => throw fault
    | none =>
      advance
      return false
  else missing ["identifier or integer"]

/-- Repeats a reading as long as it asks for it.  It reads at least one token each time. -/
def repeatWithin : (limit : Nat) → Reading Bool → Reading Unit
  | 0, _ => return
  | limit + 1, step => do if ← step then repeatWithin limit step

/-- Repeats a reading as long as it asks for it. -/
def repeatedly (step : Reading Bool) : Reading Unit := do
  repeatWithin ((← ahead).length + 1) step

/-- Reads what stands in a pair of brackets.  What the reading leaves is passed over and noted. -/
def inBrackets {α : Type} (b : Bracket) (reading : Reading α) : Reading α := do
  if opens b (← ahead) then
    advance
    let a ← reading
    if !ended (← ahead) then
      modify fun c => { c with left := c.left <|> some (.leftover (some b)) }
    advanceTo ((behindTrees 1 (← ahead)))
    return a
  else missing [b.name]

/-- Reads the tree that is next, if it is one in brackets. -/
def readTree : Reading Bracket := do
  match ← ahead with
  | .opening b :: _ =>
    advanceTree
    return b
  | _ => missing ["delimiter"]

/-- Reads things with commas between them and perhaps also at the end, up to the end of the text or
of the brackets around. -/
def separated (item : Reading Unit) : Reading Unit :=
  repeatedly do
    if ended (← ahead) then return false
    item
    if ended (← ahead) then return false
    readMark ","
    return true

/-- Reads things with commas between them and perhaps also at the end, up to a mark. -/
def separatedUpTo (mark : String) (item : Reading Unit) : Reading Unit :=
  repeatedly do
    if startsWith mark (← ahead) then return false
    item
    if startsWith mark (← ahead) then return false
    readMark ","
    return true

/-- The message of a reading that fails, if it does. -/
def faultOf? {α : Type} (reading : Reading α) (source : String) : Option String :=
  match (tokens? source).map reading.run with
  | some (.error fault) => some fault.message
  | _ => none

example :
    faultOf? (inBrackets .round (readMark "&&")) "(& &)" = some "expected `&&`" ∧
    faultOf? (inBrackets .round (readMark "&")) "(&&)" = some "unexpected token, expected `)`" ∧
    faultOf? (inBrackets .round readIdentifier) "()" =
      some "unexpected end of input, expected identifier" := by
  decide +kernel

end Source
end EventSourcing
