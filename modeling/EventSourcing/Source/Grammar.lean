import EventSourcing.Source.Reading

/-!
# The grammar of source text

Expressions, types, patterns and statements hold one another.  The readings of their parts are
therefore given as one value, a `Grammar`: a construct is read with the help of the grammar for what
stands inside of it.

Of an expression or a type only its form is kept, as far as something outside of it depends on it.

## Main Definitions

* `Form`, `TypeForm` — the forms of expressions and of types.
* `Precedence` — how closely operators bind.
* `Grammar` — the readings of what constructs hold.
-/

namespace EventSourcing

/-- The forms of expressions. -/
inductive Form where
  | array
  | assignment
  | asyncBlock
  | awaited
  /-- Two operands; `compares` if the operator between them compares. -/
  | binary (compares : Bool)
  | block
  | breaking
  | call
  | cast
  | closure
  | constBlock
  | continuing
  | field
  | forLoop
  | ifElse
  | index
  | inferred
  | letCondition
  | literal (kind : LiteralKind)
  | loop
  /-- A name with an exclamation mark and a tree behind it. -/
  | expansion (around : Bracket)
  | matching
  | methodCall
  | parenthesized
  | path
  | range
  | rawAddress
  | reference
  | repetition
  | returning
  | record
  | propagated
  | tryBlock
  | tuple
  | unary
  | uncheckedBlock
  /-- Text of which nothing else is known. -/
  | verbatim
  | whileLoop
  | yielding
  deriving Repr, DecidableEq

namespace Form

/-- The name of a form. -/
def name : Form → String
  | array => "array"
  | assignment => "assign"
  | asyncBlock => "async"
  | awaited => "await"
  | binary _ => "binary"
  | block => "block"
  | breaking => "break"
  | call => "call"
  | cast => "cast"
  | closure => "closure"
  | constBlock => "const"
  | continuing => "continue"
  | field => "field"
  | forLoop => "for_loop"
  | ifElse => "if"
  | index => "index"
  | inferred => "infer"
  | letCondition => "let"
  | literal _ => "lit"
  | loop => "loop"
  | expansion _ => "macro"
  | matching => "match"
  | methodCall => "method_call"
  | parenthesized => "paren"
  | path => "path"
  | range => "range"
  | rawAddress => "unknown"
  | reference => "reference"
  | repetition => "repeat"
  | returning => "return"
  | record => "struct"
  | propagated => "try"
  | tryBlock => "try_block"
  | tuple => "tuple"
  | unary => "unary"
  | uncheckedBlock => "unsafe"
  | verbatim => "verbatim"
  | whileLoop => "while"
  | yielding => "yield"

/-- Whether an expression of this form ends with its own block, so that it may stand as a statement
with nothing behind it. -/
def endsItself : Form → Bool
  | ifElse | matching | block | uncheckedBlock | whileLoop | loop | forLoop | tryBlock
  | constBlock => true
  | _ => false

end Form

/-- The forms of types. -/
inductive TypeForm where
  /-- A path; `simple` if it is a single identifier, perhaps with arguments. -/
  | path (simple : Bool)
  /-- A path with types in parentheses behind it. -/
  | called
  /-- A single bound without a keyword in front. -/
  | bound
  | other
  deriving Repr, DecidableEq

/-- How closely operators bind, from the loosest on. -/
inductive Precedence where
  | jump
  | assign
  | range
  | or
  | and
  | letCondition
  | compare
  | bitOr
  | bitXor
  | bitAnd
  | shift
  | sum
  | product
  | cast
  deriving Repr, DecidableEq

/-- The place of a precedence among all. -/
def Precedence.rank : Precedence → Nat
  | jump => 0
  | assign => 1
  | range => 2
  | or => 3
  | and => 4
  | letCondition => 5
  | compare => 6
  | bitOr => 7
  | bitXor => 8
  | bitAnd => 9
  | shift => 10
  | sum => 11
  | product => 12
  | cast => 13

/-- The readings of what constructs hold. -/
structure Grammar where
  /-- An expression.  `structs` tells that braces behind a path are its fields. -/
  expression : (structs : Bool) → Reading Form
  /-- An expression without operators between operands. -/
  operand : (structs : Bool) → Reading Form
  /-- The operators behind an expression that bind at least as closely as `base`. -/
  operators : (lhs : Form) → (structs : Bool) → (base : Precedence) → Reading Form
  /-- An expression that ends behind a block of its own, as a statement does. -/
  statementExpression : Reading Form
  /-- A type.  `plus` tells that further bounds may follow. -/
  type : (plus : Bool) → Reading TypeForm
  /-- A pattern without alternatives. -/
  pattern : Reading Unit
  /-- The statements of a block. -/
  statements : Reading Unit
  /-- A definition with its attributes. -/
  definition : Reading Unit

namespace Grammar

/-- The grammar of source text that holds nothing. -/
def empty : Grammar where
  expression _ := throw (.leftover none)
  operand _ := throw (.leftover none)
  operators _ _ _ := throw (.leftover none)
  statementExpression := throw (.leftover none)
  type _ := throw (.leftover none)
  pattern := throw (.leftover none)
  statements := throw (.leftover none)
  definition := throw (.leftover none)

variable (g : Grammar)

/-- The statements of a block and the braces around them. -/
def block : Reading Unit := Source.inBrackets .curly g.statements

end Grammar
end EventSourcing
