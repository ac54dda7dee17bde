import EventSourcing.Source.Definition
import EventSourcing.Source.Expression

/-!
# Statements in source text

A block is a row of statements: bindings, definitions and expressions.  An expression that does not
end with its own block needs a semicolon behind it, unless it is the last one.

## Main Definitions

* `StatementReading.statements` — the statements of a block.
* `Grammar.ofDepth` — the grammar for constructs that hold one another so many times.
* `Grammar.read` — a reading with the grammar for all of some tokens.
-/

namespace EventSourcing

namespace StatementReading

open Source

variable (g : Grammar)

/-- Whether a definition is next. -/
def isDefinitionNext (ts : List Token) : Bool :=
  let second := ts.drop 1
  let third := behindTree second
  let functions := ["unsafe", "extern", "fn"]
  startsWithAny ["pub", "extern", "use", "fn", "mod", "type", "struct", "enum", "trait", "impl",
      "macro"] ts ||
    (startsWithWord "crate" ts && !startsWith "::" second) ||
    (startsWithWord "static" ts && (startsWithWord "mut" second || startsWithIdentifier second)) ||
    (startsWithWord "const" ts &&
      !(opens .curly second || startsWithAny ["static", "move"] second || startsWith "|" second ||
        (startsWithWord "async" second && !startsWithAny functions third))) ||
    (startsWithWord "unsafe" ts && !opens .curly second) ||
    (startsWithWord "async" ts && startsWithAny functions second) ||
    (startsWithWord "union" ts && startsWithIdentifier second) ||
    (startsWithWord "auto" ts && startsWithWord "trait" second) ||
    (startsWithWord "default" ts && startsWithAny ["unsafe", "impl"] second)

/-- Reads a binding. -/
def binding : Reading Unit := do
  readKeyword "let"
  g.pattern
  if ← takeMark ":" then
    let _ ← g.type true
  if ← takeMark "=" then
    let _ ← g.expression true
    let endsInBraces := (← get).passed.head? = some (.closing .curly)
    if !endsInBraces && startsWithWord "else" (← ahead) then
      advance
      g.block
  readMark ";"

/-- The statements that make up an expression with a semicolon or without one. -/
inductive Kind where
  | complete
  /-- Needs a semicolon behind it, unless it is the last one. -/
  | needsSemicolon

/-- What a reading of a path and an exclamation mark finds next, without being carried out. -/
def expansionNext (ts : List Token) : Option (List Token) :=
  (behind? TypePath.read ts).filter (startsWith "!")

/-- Reads a statement. -/
def statement : Reading Kind := do
  Setting.skipAttributes g
  let ts ← ahead
  let behind := (expansionNext ts).map (List.drop 1)
  let braced := behind.any fun rest =>
    let third := behindTree rest
    opens .curly rest && !(ExpressionReading.isPointNext third || startsWith "?" third)
  let named := behind.any fun rest => startsWithIdentifier rest || startsWithWord "try" rest
  if !named && braced then
    advanceTo (behind.getD [])
    advanceTree
    let _ ← takeMark ";"
    return .complete
  else if startsWithWord "let" ts then
    binding g
    return .complete
  else if named || isDefinitionNext ts then
    DefinitionReading.definition g
    return .complete
  else
    let form ← g.statementExpression
    if ← takeMark ";" then return .complete
    match form with
    | .expansion .curly => return .complete
    | form => return if form.endsItself then .complete else .needsSemicolon

/-- Reads the statements of a block. -/
def statements : Reading Unit :=
  repeatedly do
    if ← takeMark ";" then return true
    if ended (← ahead) then return false
    match ← statement g with
    | .complete => return true
    | .needsSemicolon =>
      if ended (← ahead) then return false
      throw (.openStatement false)

end StatementReading

namespace Grammar

/-- The grammar of constructs that hold one another at most `depth` times. -/
def ofDepth : (depth : Nat) → Grammar
  | 0 => empty
  | depth + 1 =>
    let g := ofDepth depth
    { expression := ExpressionReading.expression g
      operand := ExpressionReading.operand g
      operators := ExpressionReading.operators g
      statementExpression := ExpressionReading.statementExpression g
      type := TypeReading.type g
      pattern := PatternReading.pattern g
      statements := StatementReading.statements g
      definition := do
        Setting.skipAttributes g
        DefinitionReading.definition g }

/-- The result of reading all of some tokens, and the tokens as they are written again.  A construct
has at least one token that what it holds does not have, so that none holds others more often than
there are tokens. -/
def read {α : Type} (reading : Grammar → Reading α) (ts : List Token) :
    Except Source.Fault (α × List Token) :=
  (reading (ofDepth (2 * ts.length + 8))).run ts

/-- What is wrong with a text that is to be read as an expression. -/
def faultOfExpression? (source : String) : Option String :=
  match (Source.tokens? source).map (read fun g => g.expression true) with
  | some (.error fault) => some fault.message
  | _ => none

example :
    faultOfExpression? "a < b > c" = some "comparison operators cannot be chained" ∧
    faultOfExpression? "f(a b)" = some "expected `,`" ∧
    faultOfExpression? "\x7b fn f(a: A, self) \x7b\x7d \x7d" = some "unexpected method receiver" ∧
    faultOfExpression? "\x7b struct A(B) \x7d" =
      some "unexpected end of input, expected `where` or `;`" := by
  decide +kernel

end Grammar
end EventSourcing
