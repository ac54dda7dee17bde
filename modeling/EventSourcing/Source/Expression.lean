import EventSourcing.Source.Pattern

/-!
# Expressions in source text

An expression is made of operands with operators between them.  Operators that bind more closely are
read first, and of those that bind alike the one in front, except that assignments are read from the
back.  A comparison cannot be compared again, and a range cannot be an operand on the left.

Braces behind a path hold fields, except where an expression is followed by a block.

## Main Definitions

* `ExpressionReading.operand` — an expression without operators between operands.
* `ExpressionReading.operators` — the operators behind an expression and their operands.
* `ExpressionReading.expression` — an expression.
* `ExpressionReading.statementExpression` — an expression that ends behind its own block.
-/

namespace EventSourcing.ExpressionReading

open Source

/-! ### Operators -/

/-- The operators between operands.  One whose marks another one starts with stands behind it. -/
def operatorTable : List (String × Precedence) :=
  ["+=", "-=", "*=", "/=", "%=", "^=", "&=", "|=", "<<=", ">>="].map (·, .assign) ++
    [("&&", .and), ("||", .or), ("<<", .shift), (">>", .shift)] ++
    ["==", "<=", "!=", ">="].map (·, .compare) ++
    [("+", .sum), ("-", .sum), ("*", .product), ("/", .product), ("%", .product), ("^", .bitXor),
      ("&", .bitAnd), ("|", .bitOr), ("<", .compare), (">", .compare)]

/-- The operator that is next. -/
def operatorNext? (ts : List Token) : Option (String × Precedence) :=
  operatorTable.find? fun o => startsWith o.1 ts

/-- Whether the mark of an assignment is next. -/
def isAssignmentNext (ts : List Token) : Bool := startsWith "=" ts && !startsWith "=>" ts

/-- The precedence of what is next; the loosest one if it is no operator. -/
def precedenceNext (ts : List Token) : Precedence :=
  match operatorNext? ts with
  | some (_, precedence) => precedence
  | none =>
    if isAssignmentNext ts then .assign
    else if startsWith ".." ts then .range
    else if startsWithWord "as" ts then .cast
    else .jump

/-- Whether an expression may start here. -/
def startsExpression (ts : List Token) : Bool :=
  (isWordNext ts && !startsWithWord "as" ts) || opens .round ts || opens .square ts ||
    opens .curly ts || isLiteralNext ts || (startsWith "!" ts && !startsWith "!=" ts) ||
    (startsWith "-" ts && !startsWith "-=" ts && !startsWith "->" ts) ||
    (startsWith "*" ts && !startsWith "*=" ts) || (startsWith "|" ts && !startsWith "|=" ts) ||
    (startsWith "&" ts && !startsWith "&=" ts) || startsWith ".." ts ||
    (startsWith "<" ts && !startsWith "<=" ts && !startsWith "<<=" ts) || startsWith "::" ts ||
    startsWithLifetime ts || startsWith "#" ts

/-- Whether a point for a field or a method is next. -/
def isPointNext (ts : List Token) : Bool := startsWith "." ts && !startsWith ".." ts

variable (g : Grammar)

/-! ### Blocks -/

/-- Reads a condition with its block and what else there is. -/
def conditional : Reading Unit :=
  repeatedly do
    readKeyword "if"
    let _ ← g.expression false
    g.block
    if !(← takeKeyword "else") then return false
    let ts ← ahead
    if startsWithWord "if" ts then return true
    if opens .curly ts then
      g.block
      return false
    missing ["`if`", "curly braces"]

/-- Reads a case of a choice between patterns. -/
def case' : Reading Unit := do
  Setting.skipAttributes g
  PatternReading.alternatives g
  if ← takeKeyword "if" then
    let _ ← g.expression true
  readMark "=>"
  let form ← g.statementExpression
  if !form.endsItself && !ended (← ahead) then readMark ","
  else
    let _ ← takeMark ","

/-- Reads a choice between patterns. -/
def choice : Reading Unit := do
  readKeyword "match"
  let _ ← g.expression false
  inBrackets .curly do
    Setting.skipInnerAttributes g
    repeatedly do
      if ended (← ahead) then return false
      case' g
      return true

/-- Reads a loop over items. -/
def forLoop : Reading Unit := do
  readKeyword "for"
  PatternReading.alternatives g
  readKeyword "in"
  let _ ← g.expression false
  g.body

/-- Reads a loop with a condition. -/
def whileLoop : Reading Unit := do
  readKeyword "while"
  let _ ← g.expression false
  g.body

/-- Reads a keyword and a block that may start with attributes of its own. -/
def keywordBlock (keyword : String) : Reading Unit := do
  readKeyword keyword
  g.body

/-- Reads a loop or a block with a label. -/
def labeled : Reading Form := do
  readLifetime
  readMark ":"
  let ts ← ahead
  if startsWithWord "while" ts then
    whileLoop g
    return .whileLoop
  if startsWithWord "for" ts then
    forLoop g
    return .forLoop
  if startsWithWord "loop" ts then
    keywordBlock g "loop"
    return .loop
  if opens .curly ts then
    g.body
    return .block
  missing ["loop or block expression"]

/-! ### Closures -/

/-- Whether lifetimes that are bound for a closure are next. -/
def isBinderNext (ts : List Token) : Bool :=
  startsWithWord "for" ts && startsWith "<" (ts.drop 1) &&
    (startsWithLifetime (ts.drop 2) || startsWith ">" (ts.drop 2))

/-- Whether a closure is next. -/
def isClosureNext (ts : List Token) : Bool :=
  startsWith "|" ts || startsWithAny ["move", "static"] ts || isBinderNext ts ||
    (startsWithWord "const" ts && !opens .curly (ts.drop 1)) ||
    (startsWithWord "async" ts && (startsWith "|" (ts.drop 1) || startsWithWord "move" (ts.drop 1)))

/-- Reads a closure. -/
def closure (structs : Bool) : Reading Unit := do
  if startsWithWord "for" (← ahead) then TypeReading.binder g
  let _ ← takeKeyword "const"
  let _ ← takeKeyword "static"
  let _ ← takeKeyword "async"
  let _ ← takeKeyword "move"
  readMark "|"
  separatedUpTo "|" do
    Setting.skipAttributes g
    g.pattern
    if ← takeMark ":" then
      let _ ← g.type true
  readMark "|"
  if ← takeMark "->" then
    let _ ← g.type true
    g.block
  else
    let _ ← g.expression structs

/-! ### Fields and members -/

/-- Reads a field and its value, which may be missing behind a name. -/
def fieldValue : Reading Unit := do
  Setting.skipAttributes g
  let named ← readMember
  if startsWith ":" (← ahead) || !named then
    readMark ":"
    let _ ← g.expression true

/-- Reads the fields of a structure, of which at most `limit` are read, up to the mark for the
others. -/
def fieldsWithin : (limit : Nat) → Reading Unit
  | 0 => return
  | limit + 1 => do
    if ended (← ahead) then return
    if ← takeMark ".." then
      if !ended (← ahead) then
        let _ ← g.expression true
    else
      fieldValue g
      if ended (← ahead) then return
      readMark ","
      fieldsWithin limit

/-! ### Operands -/

/-- Reads expressions with commas between them up to the end of the brackets around. -/
def row : Reading Unit :=
  separated do
    let _ ← g.expression true

/-- Reads an expression that starts with a path. -/
def pathExpression (structs : Bool) : Reading Form := do
  let shape ← TypeReading.qualifiedPath g true
  let ts ← ahead
  if (shape.any fun s => s.plain) && startsWith "!" ts && !startsWith "!=" ts then
    readMark "!"
    return .expansion (← readTree)
  if structs && opens .curly ts then
    inBrackets .curly do fieldsWithin g ((← ahead).length + 1)
    return .record
  return .path

/-- Reads an expression or a tuple in parentheses. -/
def parenthesized : Reading Form :=
  inBrackets .round do
    if ended (← ahead) then return .tuple
    let _ ← g.expression true
    if ended (← ahead) then return .parenthesized
    readMark ","
    row g
    return .tuple

/-- Reads a row of expressions, or an expression that is repeated. -/
def bracketed : Reading Form :=
  inBrackets .square do
    if ended (← ahead) then return .array
    let _ ← g.expression true
    let ts ← ahead
    if ended ts then return .array
    if startsWith "," ts then
      readMark ","
      row g
      return .array
    if startsWith ";" ts then
      readMark ";"
      let _ ← g.expression true
      return .repetition
    missing ["`,` or `;`"]

/-- The marks that no expression starts with and that may follow an open range. -/
def rangeEnders : List String :=
  [",", ";", "?", "=>", "=", "+", "/", "%", "^", ">", "<=", "!=", "-=", "*=", "&=", "|=", "<<="]

/-- Whether, behind the marks of an open range, what is next shows that it has no end. -/
def endsRange (structs : Bool) (ts : List Token) : Bool :=
  ended ts || rangeEnders.any (startsWith · ts) || isPointNext ts ||
    (!structs && opens .curly ts) || startsWithWord "as" ts

/-- Reads the operators that bind more closely than the one in front of an operand. -/
def closerOperators (structs : Bool) (precedence : Precedence) :
    (limit : Nat) → Form → Reading Form
  | 0, form => return form
  | limit + 1, form => do
    let ts ← ahead
    let next := precedenceNext ts
    if precedence.rank < next.rank || (next = precedence && precedence = .assign) then
      let form ← g.operators form structs next
      if (← ahead).length = ts.length then return form
      else closerOperators structs precedence limit form
    else return form

/-- Reads an operand on the right with the operators that bind more closely than the one in
front. -/
def operandOnRight (structs : Bool) (precedence : Precedence) : Reading Unit := do
  let form ← g.operand structs
  let _ ← closerOperators g structs precedence ((← ahead).length + 1) form

/-- Reads the marks of a range and its end. -/
def rangeFrom (structs : Bool) : Reading Unit := do
  let closed ← PatternReading.rangeMarks false
  if closed || !endsRange structs (← ahead) then operandOnRight g structs .range

/-- Reads what may be given behind a keyword. -/
def given : Reading Unit := do
  if startsExpression (← ahead) then
    let _ ← g.expression true

/-- Reads an expression that leaves a loop or a block. -/
def breaking (structs : Bool) : Reading Unit := do
  readKeyword "break"
  let ts ← ahead
  if startsWithLifetime ts && startsWith ":" (ts.drop 1) then
    let _ ← g.expression true
    throw (.refused "parentheses required")
  if startsWithLifetime ts then advance
  let ts ← ahead
  if startsExpression ts && (structs || !opens .curly ts) then
    let _ ← g.expression true

/-- Reads an operand without what may stand in front of it and behind it. -/
def atom (structs : Bool) : Reading Form := do
  let ts ← ahead
  let second := ts.drop 1
  let as (form : Form) (reading : Reading Unit) : Reading Form := do
    reading
    return form
  if isLiteralNext ts then return .literal (← readLiteral)
  else if startsWithWord "async" ts &&
      (opens .curly second || (startsWithWord "move" second && opens .curly (second.drop 1))) then
    as .asyncBlock do
      advance
      let _ ← takeKeyword "move"
      g.block
  else if startsWithWord "try" ts && opens .curly second then
    as .tryBlock do
      advance
      g.block
  else if isClosureNext ts then as .closure (closure g structs)
  else if startsWithWord "builtin" ts && startsWith "#" second then
    as .verbatim do
      advance
      readMark "#"
      let _ ← readIdentifier
      if opens .round (← ahead) then advanceTree else missing ["parentheses"]
  else if startsWithIdentifier ts || startsWith "::" ts || startsWith "<" ts ||
      startsWithAny ["self", "Self", "super", "crate"] ts ||
      (startsWithWord "try" ts && (startsWith "!" second || startsWith "::" second)) then
    pathExpression g structs
  else if opens .round ts then parenthesized g
  else if startsWithWord "break" ts then as .breaking (breaking g structs)
  else if startsWithWord "continue" ts then
    as .continuing do
      advance
      if startsWithLifetime (← ahead) then advance
  else if startsWithWord "return" ts then
    as .returning do
      advance
      given g
  else if startsWithWord "become" ts then
    as .verbatim do
      advance
      let _ ← g.expression true
  else if opens .square ts then bracketed g
  else if startsWithWord "let" ts then
    as .letCondition do
      advance
      PatternReading.alternatives g
      readMark "="
      let form ← g.operand structs
      let _ ← g.operators form structs .compare
  else if startsWithWord "if" ts then as .ifElse (conditional g)
  else if startsWithWord "while" ts then as .whileLoop (whileLoop g)
  else if startsWithWord "for" ts then as .forLoop (forLoop g)
  else if startsWithWord "loop" ts then as .loop (keywordBlock g "loop")
  else if startsWithWord "match" ts then as .matching (choice g)
  else if startsWithWord "yield" ts then
    as .yielding do
      advance
      given g
  else if startsWithWord "unsafe" ts then as .uncheckedBlock (keywordBlock g "unsafe")
  else if startsWithWord "const" ts then as .constBlock (keywordBlock g "const")
  else if opens .curly ts then as .block (g.body)
  else if startsWith ".." ts then as .range (rangeFrom g structs)
  else if startsWithWord "_" ts then as .inferred advance
  else if startsWithLifetime ts then labeled g
  else missing ["an expression"]

/-- The decimal number that is next, and whether it has a minus sign. -/
def decimalNext? : List Token → Option (Bool × String)
  | .literal .decimal number :: _ => some (false, number)
  | .mark '-' _ :: .literal .decimal number :: _ => some (true, number)
  | _ => none

/-- Why the text between the points of a decimal number is no number of a member, if it is none. -/
def partFault? (negative : Bool) (part : List Char) : Option Fault :=
  match Literal.scan? part with
  | some (.literal .integer number, []) => memberFault? negative number.toList
  | _ => some (.refused "expected integer literal")

/-- Reads the numbers of members that look like a decimal number, and tells whether a point is left
behind the last of them. -/
def decimalMembers (negative : Bool) (number : String) : Reading Bool := do
  let _ ← readLiteral
  let trailing := number.toList.getLast? = some '.'
  let parts := (if trailing then number.toList.dropLast else number.toList).splitOnP (· = '.')
  let faults := (parts.take 1).filterMap (partFault? negative) ++
    (parts.drop 1).filterMap (partFault? false)
  match faults with
  | fault :: _ => throw fault
  | [] => return trailing

/-- Reads a name or a number behind a point, and the arguments of a method. -/
def memberAccess : Reading Form := do
  if ← takeKeyword "await" then return .awaited
  let named ← readMember
  let turbofish := named && startsWith "::" (← ahead)
  if turbofish then
    readMark "::"
    TypeReading.arguments g (TypeReading.argumentBound g)
  if turbofish || (named && opens .round (← ahead)) then
    inBrackets .round (row g)
    return .methodCall
  return .field

/-- Reads what stands behind an operand and belongs to it, of which at most `limit` are read. -/
def trailersWithin : (limit : Nat) → Form → Reading Form
  | 0, form => return form
  | limit + 1, form => do
    let ts ← ahead
    if opens .round ts then
      inBrackets .round (row g)
      trailersWithin limit .call
    else if isPointNext ts && form ≠ .range then
      readMark "."
      match decimalNext? (← ahead) with
      | some (negative, number) =>
        if ← decimalMembers negative number then trailersWithin limit (← memberAccess g)
        else trailersWithin limit .field
      | none => trailersWithin limit (← memberAccess g)
    else if opens .square ts then
      inBrackets .square do
        let _ ← g.expression true
      trailersWithin limit .index
    else if startsWith "?" ts && form ≠ .range then
      readMark "?"
      trailersWithin limit .propagated
    else return form

/-- Reads what stands behind an operand and belongs to it. -/
def trailers (form : Form) : Reading Form := do trailersWithin g ((← ahead).length + 1) form

/-- Reads a reference or an address. -/
def reference (structs : Bool) : Reading Form := do
  readMark "&"
  let ts ← ahead
  let raw := startsWithWord "raw" ts && startsWithAny ["mut", "const"] (ts.drop 1)
  if raw then
    advance
    advance
  else
    let _ ← takeKeyword "mut"
  let _ ← g.operand structs
  return if raw then .rawAddress else .reference

/-- Reads an expression without operators between operands. -/
def operand (structs : Bool) : Reading Form := do
  let attributes ← Setting.readAttributes g
  let ts ← ahead
  if startsWith "&" ts then reference g structs
  else if startsWith "*" ts || startsWith "!" ts || startsWith "-" ts then
    advance
    let _ ← g.operand structs
    return .unary
  else
    let form ← trailers g (← atom g structs)
    if form = .range && !attributes.isEmpty then
      throw (.refused "attributes are not allowed on range expressions starting with `..`")
    return form

/-! ### Expressions -/

/-- Refuses what binds more closely than the conversion in front of it. -/
def checkCast : Reading Unit := do
  let ts ← ahead
  let second := ts.drop 1
  let third := behindTree second
  if isPointNext ts then
    if startsWithWord "await" second then throw (.castFollowedBy "`.await`")
    else if startsWithIdentifier second && (opens .round third || startsWith "::" third) then
      throw (.castFollowedBy "a method call")
    else throw (.castFollowedBy "a field access")
  else if startsWith "?" ts then throw (.castFollowedBy "`?`")
  else if opens .square ts then throw (.castFollowedBy "indexing")
  else if opens .round ts then throw (.castFollowedBy "a function call")

/-- Reads operators that bind at least as closely as `base`, of which at most `limit` are read. -/
def operatorsWithin (structs : Bool) (base : Precedence) : (limit : Nat) → Form → Reading Form
  | 0, form => return form
  | limit + 1, form => do
    let ts ← ahead
    if form = .range then return form
    match operatorNext? ts with
    | some (marks, precedence) =>
      if precedence.rank < base.rank then return form
      if precedence = .compare && form = .binary true then throw .chained
      readMark marks
      operandOnRight g structs precedence
      operatorsWithin structs base limit (.binary (precedence = .compare))
    | none =>
      if base.rank ≤ Precedence.assign.rank && isAssignmentNext ts then
        readMark "="
        operandOnRight g structs .assign
        operatorsWithin structs base limit .assignment
      else if base.rank ≤ Precedence.range.rank && startsWith ".." ts then
        rangeFrom g structs
        operatorsWithin structs base limit .range
      else if base.rank ≤ Precedence.cast.rank && startsWithWord "as" ts then
        advance
        let _ ← g.type false
        checkCast
        operatorsWithin structs base limit .cast
      else return form

/-- Reads the operators behind an expression that bind at least as closely as `base`. -/
def operators (form : Form) (structs : Bool) (base : Precedence) : Reading Form := do
  operatorsWithin g structs base ((← ahead).length + 1) form

/-- Reads an expression. -/
def expression (structs : Bool) : Reading Form := do
  operators g (← operand g structs) structs .jump

/-- Reads an expression that ends with its own block, if one is next. -/
def ownBlock? : Reading (Option Form) := do
  let ts ← ahead
  let as (form : Form) (reading : Reading Unit) : Reading (Option Form) := do
    reading
    return some form
  if startsWithWord "if" ts then as .ifElse (conditional g)
  else if startsWithWord "while" ts then as .whileLoop (whileLoop g)
  else if startsWithWord "for" ts && !isBinderNext ts then as .forLoop (forLoop g)
  else if startsWithWord "loop" ts then as .loop (keywordBlock g "loop")
  else if startsWithWord "match" ts then as .matching (choice g)
  else if startsWithWord "try" ts && opens .curly (ts.drop 1) then
    as .tryBlock do
      advance
      g.block
  else if startsWithWord "unsafe" ts then as .uncheckedBlock (keywordBlock g "unsafe")
  else if startsWithWord "const" ts && opens .curly (ts.drop 1) then
    as .constBlock (keywordBlock g "const")
  else if opens .curly ts then as .block (g.body)
  else if startsWithLifetime ts then return some (← labeled g)
  else return none

/-- Reads an expression that ends behind a block of its own.  Only a point or a question mark makes
it go on. -/
def statementExpression : Reading Form := do
  Setting.skipAttributes g
  match ← ownBlock? g with
  | some form =>
    let ts ← ahead
    if isPointNext ts || startsWith "?" ts then operators g (← trailers g form) true .jump
    else return form
  | none => operators g (← operand g true) true .jump

end EventSourcing.ExpressionReading
