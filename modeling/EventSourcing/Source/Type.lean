import EventSourcing.Source.Setting

/-!
# Types in source text

A type is a path with arguments between angle brackets, a reference, a tuple, a function, and so on.
In a type, an angle bracket behind an identifier opens its arguments.  In an expression it would
compare, so that there arguments need a `::` in front.

Arguments are written again with lifetimes first, and with a comma in front of what follows them.

## Main Definitions

* `TypeReading.path` — a path with arguments.
* `TypeReading.bound` — what a type may be asked to satisfy.
* `TypeReading.type` — a type.
-/

namespace EventSourcing.TypeReading

open Source

/-! ### Arguments -/

/-- An argument between angle brackets. -/
structure Argument where
  isLifetime : Bool
  tokens : List Token
  /-- Whether a comma stands behind it. -/
  hasComma : Bool

/-- Arguments written one after the other, with a comma between them and what comes before unless
`separated` says that there is one. -/
def written : (separated : Bool) → List Argument → List Token
  | _, [] => []
  | separated, a :: as =>
    (if separated then [] else [.mark ',' false]) ++ a.tokens ++
      (if a.hasComma then [.mark ',' false] else []) ++ written a.hasComma as

/-- Arguments as they are written again: the lifetimes first. -/
def rewritten (as : List Argument) : List Token :=
  let (lifetimes, others) := as.partition Argument.isLifetime
  written true (lifetimes ++ others)

variable (g : Grammar)

/-- Reads an argument that is a constant: a literal or a block. -/
def constant : Reading Unit := do
  if isLiteralNext (← ahead) then
    let _ ← readLiteral
  else g.body

/-- Whether an argument that is a constant is next. -/
def isConstantNext (ts : List Token) : Bool := isLiteralNext ts || opens .curly ts

/-- Reads an argument with the reading of a bound, and tells whether it is a lifetime. -/
def argument (bound : Reading Unit) : Reading Bool := do
  let ts ← ahead
  if startsWithLifetime ts && !startsWith "+" (ts.drop 1) then
    advance
    return true
  if isConstantNext ts then
    constant g
    return false
  match ← g.type true with
  | .path true =>
    if ← takeMark "=" then
      if isConstantNext (← ahead) then constant g
      else
        let _ ← g.type true
    else if ← takeMark ":" then
      repeatedly do
        let ts ← ahead
        if startsWith "," ts || startsWith ">" ts then return false
        bound
        takeMark "+"
  | _ => pure ()
  return false

/-- The arguments up to the closing angle bracket, of which at most `limit` are read. -/
def argumentsWithin (bound : Reading Unit) : (limit : Nat) → Reading (List Argument)
  | 0 => return []
  | limit + 1 => do
    if startsWith ">" (← ahead) then return []
    let (isLifetime, tokens) ← held (argument g bound)
    if startsWith ">" (← ahead) then return [⟨isLifetime, tokens, false⟩]
    let _ ← held (readMark ",")
    return ⟨isLifetime, tokens, true⟩ :: (← argumentsWithin bound limit)

/-- Reads arguments with their angle brackets, and a `::` in front if there is one. -/
def arguments (bound : Reading Unit) : Reading Unit := do
  let _ ← takeMark "::"
  readMark "<"
  let as ← argumentsWithin g bound ((← ahead).length + 1)
  pass (rewritten as)
  readMark ">"

/-! ### Paths -/

/-- What is known of a path that has been read. -/
structure PathShape where
  /-- Whether it starts with `::`. -/
  absolute : Bool
  length : Nat
  /-- Whether no segment has arguments. -/
  plain : Bool
  /-- Whether the last segment has arguments. -/
  lastHasArguments : Bool

/-- Reads a segment of a path, and tells whether it has arguments. -/
def segment (bound : Reading Unit) (inExpression : Bool) : Reading Bool := do
  if startsWithAny ["super", "self", "crate", "try"] (← ahead) then
    advance
    return false
  if startsWithWord "Self" (← ahead) then advance
  else
    let _ ← readIdentifier
  let ts ← ahead
  let bracketed := startsWith "<" ts && !startsWith "<=" ts && !startsWith "<<=" ts
  if (!inExpression && bracketed) || (startsWith "::" ts && startsWith "<" (ts.drop 2)) then
    arguments g bound
    return true
  return false

/-- Reads segments of a path that each have a `::` in front, of which at most `limit` are read.
`callable` tells that a `::` in front of parentheses belongs to a call. -/
def segmentsWithin (bound : Reading Unit) (inExpression callable : Bool) :
    (limit : Nat) → PathShape → Reading PathShape
  | 0, shape => return shape
  | limit + 1, shape => do
    let ts ← ahead
    if startsWith "::" ts && !(callable && opens .round (ts.drop 2)) then
      readMark "::"
      let hasArguments ← segment g bound inExpression
      segmentsWithin bound inExpression callable limit
        ⟨shape.absolute, shape.length + 1, shape.plain && !hasArguments, hasArguments⟩
    else return shape

/-- Reads a path. -/
def pathWith (bound : Reading Unit) (inExpression : Bool) : Reading PathShape := do
  let absolute ← takeMark "::"
  let hasArguments ← segment g bound inExpression
  segmentsWithin g bound inExpression true ((← ahead).length + 1)
    ⟨absolute, 1, !hasArguments, hasArguments⟩

/-! ### Functions -/

/-- Reads the type of what a function returns, if there is one. -/
def returned (plus : Bool) : Reading Unit := do
  if ← takeMark "->" then
    let _ ← g.type plus

/-- Whether parentheses with types are next, perhaps with a `::` in front. -/
def isCallNext (ts : List Token) : Bool :=
  opens .round ts || (startsWith "::" ts && opens .round (ts.drop 2))

/-- Reads types in parentheses, as the argument of a path. -/
def call : Reading Unit := do
  let _ ← takeMark "::"
  inBrackets .round do
    separated do
      let _ ← g.type true
  returned g false

/-- Reads lifetimes that are bound for what follows. -/
def binder : Reading Unit := do
  readKeyword "for"
  readMark "<"
  separatedUpTo ">" do
    Setting.skipAttributes g
    readLifetime
  readMark ">"

/-! ### Bounds -/

/-- The words of what a bound may not be. -/
def notHere (what : String) : Fault := .refused ("`" ++ what ++ "` is not allowed here")

/-- Reads a bound that is a path, with what may stand in front.  `bound` reads the bounds of its
arguments. -/
def traitBound (bound : Reading Unit) (allowsConst : Bool) : Reading Unit := do
  let bindsFirst := startsWithWord "for" (← ahead)
  if bindsFirst then binder g
  if opens .square (← ahead) then
    inBrackets .square (readKeyword "const")
    if !allowsConst then throw (notHere "[const]")
  else if startsWith "~" (← ahead) then
    readMark "~"
    readKeyword "const"
    if !allowsConst then throw (notHere "~const")
  else if ← takeKeyword "const" then
    if !allowsConst then throw (notHere "const")
  let maybe ← takeMark "?"
  let bindsThen := !bindsFirst && maybe && startsWithWord "for" (← ahead)
  if bindsThen then binder g
  let shape ← pathWith g bound false
  if !shape.lastHasArguments && isCallNext (← ahead) then call g
  if maybe && (bindsFirst || bindsThen) then
    throw (.refused "`for<...>` binder not allowed with `?` trait polarity modifier")

/-- Reads the parameters that an opaque type captures. -/
def captured : Reading Unit := do
  readKeyword "use"
  readMark "<"
  separatedUpTo ">" do
    let ts ← ahead
    if startsWithLifetime ts || startsWithIdentifier ts || startsWithWord "Self" ts then advance
    else missing ["lifetime", "identifier", "`Self`"]
  readMark ">"

/-- Reads a bound: a lifetime, captured parameters, or a path, perhaps in parentheses.  It tells
whether it is no lifetime.  `limit` bounds how deeply bounds stand in one another. -/
def boundWithin (allowsCapture allowsConst : Bool) : (limit : Nat) → Reading Bool
  | 0 => throw (.leftover none)
  | limit + 1 => do
    let inner : Reading Unit := do
      let _ ← boundWithin false true limit
    if startsWithLifetime (← ahead) then
      advance
      return false
    if startsWithWord "use" (← ahead) then
      captured
      if !allowsCapture then
        throw (.refused "`use<...>` precise capturing syntax is not allowed here")
      return false
    if opens .round (← ahead) then inBrackets .round (traitBound g inner allowsConst)
    else traitBound g inner allowsConst
    return true

/-- Reads a bound, and tells whether it is no lifetime. -/
def bound (allowsCapture allowsConst : Bool) : Reading Bool := do
  boundWithin g allowsCapture allowsConst ((← ahead).length + 1)

/-- Reads a bound of an argument between angle brackets. -/
def argumentBound : Reading Unit := do
  let _ ← bound g false true

/-- Reads a path. -/
def path (inExpression : Bool) : Reading PathShape := pathWith g (argumentBound g) inExpression

/-- Whether a bound may follow behind a plus sign. -/
def isBoundNext (allowsConst : Bool) (ts : List Token) : Bool :=
  isWordNext ts || startsWith "::" ts || startsWith "?" ts || startsWithLifetime ts ||
    opens .round ts || (allowsConst && opens .square ts)

/-- Bounds with plus signs between them and perhaps also at the end, of which at most `limit` are
read: whether each is no lifetime, and whether a plus sign is at the end. -/
def boundsWithin (plus allowsCapture allowsConst : Bool) :
    (limit : Nat) → Reading (List Bool × Bool)
  | 0 => return ([], false)
  | limit + 1 => do
    let first ← bound g allowsCapture allowsConst
    if plus && startsWith "+" (← ahead) then
      readMark "+"
      if isBoundNext allowsConst (← ahead) then
        let (rest, trailing) ← boundsWithin plus allowsCapture allowsConst limit
        return (first :: rest, trailing)
      else return ([first], true)
    else return ([first], false)

/-- Reads the bounds of an object type, of which one must not be a lifetime, and tells whether there
is a single one. -/
def objectBounds (plus : Bool) : Reading Bool := do
  let (bounds, trailing) ← boundsWithin g plus false false ((← ahead).length + 1)
  if bounds.any id then return bounds.length = 1 && !trailing
  else throw (.refused "at least one trait is required for an object type")

/-! ### Types -/

/-- What may start a type. -/
def starts : List String :=
  ["`for`", "parentheses", "`fn`", "`unsafe`", "`extern`", "identifier", "`::`", "`<`", "`dyn`",
    "square brackets", "`*`", "`&`", "`!`", "`impl`", "`_`", "lifetime"]

/-- What may stand behind lifetimes that are bound. -/
def startsBehindBinder : List String :=
  ["identifier", "`fn`", "`unsafe`", "`extern`", "`super`", "`self`", "`Self`", "`crate`"]

/-- Reads a path that may have a type in angle brackets in front, and tells what it is like if it
has none. -/
def qualifiedPath (inExpression : Bool) : Reading (Option PathShape) := do
  if startsWith "<" (← ahead) then
    readMark "<"
    let _ ← g.type true
    if ← takeKeyword "as" then
      let _ ← path g false
    readMark ">"
    readMark "::"
    let hasArguments ← segment g (argumentBound g) inExpression
    let shape ← segmentsWithin g (argumentBound g) inExpression false ((← ahead).length + 1)
      ⟨false, 1, !hasArguments, hasArguments⟩
    if !inExpression && !shape.lastHasArguments && isCallNext (← ahead) then call g
    return none
  else return some (← path g inExpression)

/-- Reads further bounds behind a type that turns out to be one. -/
def furtherBounds : Reading Unit :=
  repeatedly do
    if ← takeMark "+" then
      if isBoundNext false (← ahead) then
        let _ ← bound g false false
        return true
      else return false
    else return false

/-- Reads a type that starts with a path. -/
def pathType (plus bound' : Bool) : Reading TypeForm := do
  match ← qualifiedPath g false with
  | none => return .other
  | some shape =>
    let called := !shape.lastHasArguments && isCallNext (← ahead)
    if called then call g
    let ts ← ahead
    if startsWith "!" ts && !startsWith "!=" ts && shape.plain && !called then
      readMark "!"
      let _ ← readTree
      return .other
    else if bound' || (plus && startsWith "+" ts) then
      let single := !(plus && startsWith "+" ts)
      if plus then furtherBounds g
      return if single then .bound else .other
    else return if called then .called else .path (!shape.absolute && shape.length = 1)

/-- Reads the type of an argument of a function, perhaps with a name in front. -/
def functionArgument (isFirst : Bool) : Reading Unit := do
  Setting.skipAttributes g
  let mutableSelf (ts : List Token) : Bool :=
    isFirst && startsWithWord "mut" ts && startsWithWord "self" (ts.drop 1)
  let isMutable := mutableSelf (← ahead)
  if isMutable then advance
  let ts ← ahead
  let named := startsWithIdentifier ts || startsWithWord "_" ts ||
    (isFirst && startsWithWord "self" ts)
  if named && startsWith ":" (ts.drop 1) && !startsWith "::" (ts.drop 1) then
    advance
    readMark ":"
    let _ ← g.type true
  else if isMutable then readKeyword "self"
  else
    let _ ← g.type true

/-- Whether the marks for any further arguments are next, perhaps with a name in front. -/
def isVariadicNext (ts : List Token) : Bool :=
  startsWith "..." ts ||
    ((startsWithIdentifier ts || startsWithWord "_" ts) && startsWith ":" (ts.drop 1) &&
      startsWith "..." (ts.drop 2))

/-- Reads the arguments of a function, of which at most `limit` are read. -/
def functionArguments : (limit : Nat) → (isFirst : Bool) → Reading Unit
  | 0, _ => return
  | limit + 1, isFirst => do
    if ended (← ahead) then return
    Setting.skipAttributes g
    if isVariadicNext (← ahead) then
      if isWordNext (← ahead) then
        advance
        readMark ":"
      readMark "..."
      let _ ← takeMark ","
      return
    functionArgument g isFirst
    if ended (← ahead) then return
    readMark ","
    functionArguments limit false

/-- Reads what tells that functions are called in a foreign way, if it is next. -/
def convention : Reading Unit := do
  if ← takeKeyword "extern" then
    if literalNext? (← ahead) = some .text then advance

/-- Reads a type of functions. -/
def function : Reading Unit := do
  let _ ← takeKeyword "unsafe"
  convention
  readKeyword "fn"
  inBrackets .round do functionArguments g ((← ahead).length + 1) true
  returned g false

/-- What parentheses around types turn out to be. -/
inductive Group where
  | tuple
  | maybe
  | single (form : TypeForm)

/-- Reads what stands in parentheses at the start of a type. -/
def group : Reading Group :=
  inBrackets .round do
    let ts ← ahead
    if ended ts then return .tuple
    if startsWithLifetime ts then
      let _ ← objectBounds g true
      return .single .other
    if startsWith "?" ts then
      traitBound g (argumentBound g) false
      return .maybe
    let first ← g.type true
    if startsWith "," (← ahead) then
      readMark ","
      separated do
        let _ ← g.type true
      return .tuple
    return .single first

/-- Reads a type that starts with parentheses. -/
def groupType (plus : Bool) : Reading TypeForm := do
  let further : Reading Unit := repeatedly do
    if ← takeMark "+" then
      let _ ← bound g false false
      return true
    else return false
  match ← group g with
  | .tuple => return .other
  | .maybe =>
    further
    return .other
  | .single form =>
    if plus && startsWith "+" (← ahead) && form ≠ .other then further
    return .other

/-- Reads a pointer. -/
def pointer : Reading Unit := do
  readMark "*"
  if startsWithAny ["const", "mut"] (← ahead) then advance else missing ["`const`", "`mut`"]
  let _ ← g.type false

/-- Reads a reference. -/
def reference : Reading Unit := do
  readMark "&"
  if startsWithLifetime (← ahead) then advance
  let _ ← takeKeyword "mut"
  let _ ← g.type false

/-- Reads a type of rows, perhaps of a given length. -/
def rows : Reading Unit :=
  inBrackets .square do
    let _ ← g.type true
    if ← takeMark ";" then
      let _ ← g.expression true

/-- Reads an opaque type, of which one bound must not be a lifetime. -/
def opaqueType (plus : Bool) : Reading Unit := do
  readKeyword "impl"
  let (bounds, _) ← boundsWithin g plus true true ((← ahead).length + 1)
  if !bounds.any id then throw (.refused "at least one trait must be specified")

/-- Reads a type. -/
def type (plus : Bool) : Reading TypeForm := do
  let binds := startsWithWord "for" (← ahead)
  if binds then
    binder g
    let ts ← ahead
    if !(startsWithIdentifier ts ||
        startsWithAny ["fn", "unsafe", "extern", "super", "self", "Self", "crate"] ts) then
      missing startsBehindBinder
  let ts ← ahead
  let other (reading : Reading Unit) : Reading TypeForm := do
    reading
    return .other
  if opens .round ts then groupType g plus
  else if startsWithAny ["fn", "unsafe", "extern"] ts then other (function g)
  else if startsWithIdentifier ts || startsWithAny ["super", "self", "Self", "crate"] ts ||
      startsWith "::" ts || startsWith "<" ts then
    pathType g plus binds
  else if startsWithWord "dyn" ts then
    other do
      advance
      let _ ← takeMark "*"
      let _ ← objectBounds g plus
  else if opens .square ts then other (rows g)
  else if startsWith "*" ts then other (pointer g)
  else if startsWith "&" ts then other (reference g)
  else if startsWith "!" ts && !startsWith "=" ts then other (readMark "!")
  else if startsWithWord "impl" ts then other (opaqueType g plus)
  else if startsWithWord "_" ts then other advance
  else if startsWithLifetime ts then
    if ← objectBounds g true then return .bound else return .other
  else missing starts

end EventSourcing.TypeReading
