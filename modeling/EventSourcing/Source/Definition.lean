import EventSourcing.Source.Parameter
import EventSourcing.Source.Pattern

/-!
# Definitions in source text

A block may define functions, constants, types, traits with their implementations, and modules,
which hold definitions again.  A definition may also be a name with an exclamation mark and a tree.

Traits, implementations and blocks of foreign functions hold members, which are definitions of fewer
kinds.  A member may lack its value or its body.

## Main Definitions

* `DefinitionReading.signature` — a function without its body.
* `DefinitionReading.traitMember`, `DefinitionReading.member`, `DefinitionReading.foreignMember` —
  what traits, implementations and foreign blocks hold.
* `DefinitionReading.definition` — a definition behind its attributes.
-/

namespace EventSourcing.DefinitionReading

open Source

variable (g : Grammar)

/-! ### What is next -/

/-- Some keywords as what was expected, without one that is next. -/
def unmet (words : List String) (ts : List Token) : List String :=
  (words.filter fun w => !startsWithWord w ts).map fun w => "`" ++ w ++ "`"

/-- What may start a name with an exclamation mark. -/
def expansionStarts : List String := ["identifier", "`self`", "`super`", "`crate`", "`::`"]

/-- Whether something may start a name with an exclamation mark. -/
def startsExpansion (ts : List Token) : Bool :=
  startsWithIdentifier ts || startsWithAny ["self", "super", "crate"] ts || startsWith "::" ts

/-- Reads parts up to the end of the brackets around, each of which reads at least one token. -/
def all (part : Reading Unit) : Reading Unit :=
  repeatedly do
    if ended (← ahead) then return false
    part
    return true

/-- Reads braces with attributes of their own and some parts. -/
def braced (part : Reading Unit) : Reading Unit :=
  inBrackets .curly do
    Setting.skipInnerAttributes g
    all part

/-- Reads an identifier or an underscore; `choices` tells what else would do. -/
def nameOrUnderscore (choices : List String) : Reading Unit := do
  if startsWithIdentifier (← ahead) || startsWithWord "_" (← ahead) then advance
  else missing choices

/-- Reads an equals sign and an expression, if they are next. -/
def initialValue : Reading Unit := do
  if ← takeMark "=" then
    let _ ← g.expression true

/-- Reads a name with an exclamation mark and a tree, and a semicolon behind a tree that is not in
braces.  `named` tells that a name may stand in front of the tree. -/
def expansion (named : Bool) : Reading Unit := do
  let _ ← TypePath.read
  readMark "!"
  let ts ← ahead
  if named && (startsWithIdentifier ts || startsWithWord "try" ts) then advance
  if (← readTree) ≠ .curly then readMark ";"

/-! ### Functions -/

/-- Whether a function is next, behind keywords that may stand in front of it. -/
def isFunctionNext (allowsSafe : Bool) (ts : List Token) : Bool :=
  let behind (w : String) (ts : List Token) := if startsWithWord w ts then ts.drop 1 else ts
  let ts := behind "async" (behind "const" ts)
  let ts := if allowsSafe && startsWithWord "safe" ts then ts.drop 1 else behind "unsafe" ts
  let named := startsWithWord "extern" ts && literalNext? (ts.drop 1) = some .text
  startsWithWord "fn" (if named then ts.drop 2 else behind "extern" ts)

/-- What an argument of a function turns out to be. -/
inductive Argument where
  | receiver
  | typed
  | variadic
  deriving Repr, DecidableEq

/-- Reads the receiver of a method. -/
def receiver : Reading Unit := do
  let borrowed ← takeMark "&"
  if borrowed && startsWithLifetime (← ahead) then advance
  let _ ← takeKeyword "mut"
  readKeyword "self"
  if !borrowed then
    if ← takeMark ":" then
      let _ ← g.type true

/-- Reads an argument behind its attributes.  An argument without a name has a type that starts with
an identifier and an angle bracket. -/
def argument : Reading Argument := do
  if (← attempt? (receiver g)).isSome then return .receiver
  let ts ← ahead
  if startsWithIdentifier ts && startsWith "<" (ts.drop 1) then
    let _ ← g.type true
    return .typed
  g.pattern
  readMark ":"
  if ← takeMark "..." then return .variadic
  let _ ← g.type true
  return .typed

/-- Reads the arguments of a function, of which at most `limit` are read.  Only the first one may be
a receiver, and only the last one may stand for any others. -/
def argumentsWithin : (limit : Nat) → (isFirst received : Bool) → Reading Unit
  | 0, _, _ => return
  | limit + 1, isFirst, received => do
    if ended (← ahead) then return
    Setting.skipAttributes g
    let found ← if ← takeMark "..." then pure Argument.variadic else argument g
    if found = .receiver && received then
      throw (.refused "unexpected second method receiver")
    if found = .receiver && !isFirst then throw (.refused "unexpected method receiver")
    if ended (← ahead) then return
    readMark ","
    if found ≠ .variadic then argumentsWithin limit false (received || found = .receiver)

/-- Reads a function without its body. -/
def signature (allowsSafe : Bool) : Reading Unit := do
  let _ ← takeKeyword "const"
  let _ ← takeKeyword "async"
  if !(← takeKeyword "unsafe") && allowsSafe then
    let _ ← takeKeyword "safe"
  TypeReading.convention
  readKeyword "fn"
  let _ ← readIdentifier
  let _ ← ParameterReading.parameters g
  inBrackets .round do argumentsWithin g ((← ahead).length + 1) true false
  TypeReading.returned g true
  let _ ← ParameterReading.whereClause g

/-- Reads a function.  A semicolon may stand for its body. -/
def function : Reading Unit := do
  signature g false
  if !(← takeMark ";") then g.body

/-! ### Values and names -/

/-- Reads a constant, perhaps without its value. -/
def constant : Reading Unit := do
  readKeyword "const"
  nameOrUnderscore ["identifier", "`_`"]
  let _ ← ParameterReading.parameters g
  readMark ":"
  let _ ← g.type true
  initialValue g
  let _ ← ParameterReading.whereClause g
  readMark ";"

/-- Reads a variable up to its name. -/
def variableName : Reading Unit := do
  readKeyword "static"
  let _ ← takeKeyword "mut"
  let _ ← readIdentifier

/-- Reads a variable, perhaps without its type or without its value. -/
def variable' : Reading Unit := do
  variableName
  if !startsWith "=" (← ahead) then
    readMark ":"
    let _ ← g.type true
    if startsWith ";" (← ahead) then return ← readMark ";"
  readMark "="
  let _ ← g.expression true
  readMark ";"

/-- Reads names from elsewhere; `allowsRoot` tells that they may start with `::` inside of braces.
`limit` bounds how deeply they stand in one another. -/
def importsWithin : (limit : Nat) → (allowsRoot : Bool) → Reading Unit
  | 0, _ => throw (.leftover none)
  | limit + 1, allowsRoot => do
    let ts ← ahead
    if startsWithIdentifier ts || startsWithAny ["self", "super", "crate", "try"] ts then
      advance
      if ← takeMark "::" then importsWithin limit false
      else if ← takeKeyword "as" then nameOrUnderscore ["identifier or underscore"]
    else if startsWith "*" ts then readMark "*"
    else if opens .curly ts then
      inBrackets .curly do
        separated do
          let rooted ← if allowsRoot then takeMark "::" else pure false
          importsWithin limit (allowsRoot && !rooted)
    else missing ["identifier", "`self`", "`super`", "`crate`", "`try`", "`*`", "curly braces"]

/-- Reads the import of names. -/
def imports : Reading Unit := do
  readKeyword "use"
  let absolute ← takeMark "::"
  importsWithin ((← ahead).length + 1) !absolute
  readMark ";"

/-- Reads the import of a whole library. -/
def library : Reading Unit := do
  readKeyword "extern"
  readKeyword "crate"
  if !(← takeKeyword "self") then
    let _ ← readIdentifier
  if ← takeKeyword "as" then
    if !(← takeKeyword "_") then
      let _ ← readIdentifier
  readMark ";"

/-! ### Types -/

/-- Reads fields with names in braces.  A field without a name may hold fields of its own; `limit`
bounds how deeply they stand in one another. -/
def namedFieldsWithin : (limit : Nat) → Reading Unit
  | 0 => throw (.leftover none)
  | limit + 1 =>
    inBrackets .curly do
      separated do
        Setting.skipAttributes g
        let _ ← ParameterReading.visibility
        let nameless ← takeKeyword "_"
        if !nameless then
          let _ ← readIdentifier
        readMark ":"
        let ts ← ahead
        if nameless && (startsWithWord "struct" ts ||
            (startsWithWord "union" ts && opens .curly (ts.drop 1))) then
          advance
          namedFieldsWithin limit
        else
          let _ ← g.type true

/-- Reads fields with names in braces. -/
def namedFields : Reading Unit := do namedFieldsWithin g ((← ahead).length + 1)

/-- Reads fields without names in parentheses. -/
def unnamedFields : Reading Unit :=
  inBrackets .round do
    separated do
      Setting.skipAttributes g
      let _ ← ParameterReading.visibility
      let _ ← g.type true

/-- Reads the name of a type and its parameters behind a keyword. -/
def typeName (keyword : String) : Reading Unit := do
  readKeyword keyword
  let _ ← readIdentifier
  let _ ← ParameterReading.parameters g

/-- Reads a semicolon as the last of what was expected. -/
def semicolonOr (choices : List String) : Reading Unit := do
  if startsWith ";" (← ahead) then readMark ";" else missing (choices ++ ["`;`"])

/-- Reads a structure. -/
def record : Reading Unit := do
  typeName g "struct"
  let bounded ← ParameterReading.whereClause g
  let ts ← ahead
  if opens .curly ts then namedFields g
  else if !bounded && opens .round ts then
    unnamedFields g
    if ← ParameterReading.whereClause g then semicolonOr []
    else semicolonOr ["`where`"]
  else semicolonOr ((if bounded then [] else ["`where`", "parentheses"]) ++ ["curly braces"])

/-- Reads an enumeration. -/
def enumeration : Reading Unit := do
  typeName g "enum"
  let _ ← ParameterReading.whereClause g
  inBrackets .curly do
    separated do
      Setting.skipAttributes g
      let _ ← ParameterReading.visibility
      let _ ← readIdentifier
      let ts ← ahead
      if opens .curly ts then namedFields g
      else if opens .round ts then unnamedFields g
      initialValue g

/-- Reads a union of fields. -/
def union : Reading Unit := do
  typeName g "union"
  let _ ← ParameterReading.whereClause g
  namedFields g

/-- The places where a type that is given a name may have further bounds. -/
inductive WherePlace where
  | beforeValue
  | behindValue
  | both
  deriving Repr, DecidableEq

/-- Reads a name for a type, perhaps with bounds or without the type. -/
def typeAlias (place : WherePlace) : Reading Unit := do
  typeName g "type"
  if ← takeMark ":" then
    ParameterReading.boundsUpTo g true fun ts =>
      startsWithWord "where" ts || startsWith "=" ts || startsWith ";" ts
  let bounded ← if place = .behindValue then pure false else ParameterReading.whereClause g
  if ← takeMark "=" then
    let _ ← g.type true
  if place ≠ .beforeValue && !bounded then
    let _ ← ParameterReading.whereClause g
  readMark ";"

/-! ### Traits -/

/-- Reads a function of a trait. -/
def traitFunction : Reading Unit := do
  signature g false
  if opens .curly (← ahead) then g.body else semicolonOr ["curly braces"]

/-- Reads a member of a trait. -/
def traitMember : Reading Unit := do
  Setting.skipAttributes g
  let visible ← ParameterReading.visibility
  let defaulted ← takeKeyword "default"
  let ts ← ahead
  let second := ts.drop 1
  if isFunctionNext false ts then traitFunction g
  else if startsWithWord "const" ts then
    if startsWithIdentifier second || startsWithWord "_" second then constant g
    else if startsWithAny ["async", "unsafe", "extern", "fn"] second then traitFunction g
    else
      advance
      missing ["identifier", "`_`", "`async`", "`unsafe`", "`extern`", "`fn`"]
  else if startsWithWord "type" ts then typeAlias g .behindValue
  else if visible || defaulted then missing (unmet ["fn", "const", "type"] ts)
  else if startsExpansion ts then expansion false
  else missing (unmet ["fn", "const", "type"] ts ++ expansionStarts)

/-- Reads a trait behind its parameters. -/
def traitRest : Reading Unit := do
  if ← takeMark ":" then
    ParameterReading.boundsUpTo g true fun ts => startsWithWord "where" ts || opens .curly ts
  let _ ← ParameterReading.whereClause g
  braced g (traitMember g)

/-- Reads a trait, or a name for several. -/
def trait : Reading Unit := do
  let unchecked ← takeKeyword "unsafe"
  let automatic ← takeKeyword "auto"
  typeName g "trait"
  let ts ← ahead
  let starts := opens .curly ts || startsWith ":" ts || startsWithWord "where" ts
  if unchecked || automatic || starts then traitRest g
  else if ← takeMark "=" then
    ParameterReading.boundsUpTo g false fun ts => startsWithWord "where" ts || startsWith ";" ts
    let _ ← ParameterReading.whereClause g
    readMark ";"
  else missing ["curly braces", "`:`", "`where`", "`=`"]

/-- Reads a member of an implementation. -/
def member : Reading Unit := do
  Setting.skipAttributes g
  let visible ← ParameterReading.visibility
  let defaulted := startsWithWord "default" (← ahead) && !startsWith "!" ((← ahead).drop 1)
  if defaulted then advance
  let ts ← ahead
  let choices := unmet ((if defaulted then [] else ["default"]) ++ ["fn", "const", "type"]) ts
  if isFunctionNext false ts then function g
  else if startsWithWord "const" ts then constant g
  else if startsWithWord "type" ts then typeAlias g .behindValue
  else if visible || defaulted then missing choices
  else if startsExpansion ts then expansion false
  else missing (choices ++ expansionStarts)

/-- Reads an implementation. -/
def implementation : Reading Unit := do
  let _ ← takeKeyword "default"
  let _ ← takeKeyword "unsafe"
  readKeyword "impl"
  if ParameterReading.opensParameters (← ahead) then
    let _ ← ParameterReading.parameters g
  let ts ← ahead
  if startsWithWord "const" ts || (startsWith "?" ts && startsWithWord "const" (ts.drop 1)) then
    let _ ← takeMark "?"
    readKeyword "const"
  let ts ← ahead
  let negative := startsWith "!" ts && !opens .curly (ts.drop 1)
  if negative then readMark "!"
  let _ ← g.type true
  if ← takeKeyword "for" then
    let _ ← g.type true
  else if negative then throw (.refused "inherent impls cannot be negative")
  let _ ← ParameterReading.whereClause g
  braced g (member g)

/-! ### Modules and foreign blocks -/

/-- Reads a module. -/
def module' : Reading Unit := do
  let _ ← takeKeyword "unsafe"
  readKeyword "mod"
  if !(← takeKeyword "try") then
    let _ ← readIdentifier
  let ts ← ahead
  if startsWith ";" ts then readMark ";"
  else if opens .curly ts then braced g g.definition
  else missing ["`;`", "curly braces"]

/-- Reads a member of a foreign block. -/
def foreignMember : Reading Unit := do
  Setting.skipAttributes g
  let visible ← ParameterReading.visibility
  let ts ← ahead
  if isFunctionNext true ts then
    signature g true
    if opens .curly (← ahead) then g.body else readMark ";"
  else if startsWithWord "static" ts ||
      (startsWithAny ["unsafe", "safe"] ts && startsWithWord "static" (ts.drop 1)) then
    if !startsWithWord "static" ts then advance
    variableName
    readMark ":"
    let _ ← g.type true
    initialValue g
    readMark ";"
  else if startsWithWord "type" ts then typeAlias g .both
  else if visible then missing (unmet ["fn", "static", "type"] ts)
  else if startsExpansion ts then expansion false
  else missing (unmet ["fn", "static", "type"] ts ++ expansionStarts)

/-- Reads a foreign block, in front of which nothing tells what can see it. -/
def foreign (visible : Bool) : Reading Unit := do
  if visible then throw (.expected ["`extern`"] false)
  let _ ← takeKeyword "unsafe"
  TypeReading.convention
  braced g (foreignMember g)

/-! ### Definitions -/

/-- Reads a rule for names with an exclamation mark. -/
def rule : Reading Unit := do
  advance
  let _ ← readIdentifier
  let ts ← ahead
  if opens .round ts then advanceTree
  if opens .curly (← ahead) then advanceTree
  else missing ((if opens .round ts then [] else ["parentheses"]) ++ ["curly braces"])

/-- Reads what starts with the keyword for foreign things. -/
def foreignThing (visible : Bool) : Reading Unit := do
  let second := (← ahead).drop 1
  let named := literalNext? second = some .text
  if startsWithWord "crate" second then library
  else if opens .curly second || (named && opens .curly (second.drop 1)) then foreign g visible
  else
    advance
    if named then
      advance
      missing ["curly braces"]
    else missing ["`crate`", "curly braces", "string literal"]

/-- Reads what starts with the keyword for unchecked things, and is no function. -/
def uncheckedThing (visible : Bool) : Reading Unit := do
  let second := (← ahead).drop 1
  if startsWithWord "trait" second ||
      (startsWithWord "auto" second && startsWithWord "trait" (second.drop 1)) then trait g
  else if startsWithWord "impl" second then implementation g
  else if startsWithWord "extern" second then foreign g visible
  else if startsWithWord "mod" second then module' g
  else
    advance
    missing (unmet ["trait", "auto", "impl", "extern", "mod"] second)

/-- The keywords that may start a definition. -/
def starts : List String :=
  ["fn", "extern", "use", "static", "const", "unsafe", "mod", "type", "struct", "enum", "union",
    "trait", "auto", "impl", "default", "macro"]

/-- Reads a definition behind its attributes. -/
def definition : Reading Unit := do
  let visible ← ParameterReading.visibility
  let ts ← ahead
  let second := ts.drop 1
  if isFunctionNext false ts then function g
  else if startsWithWord "extern" ts then foreignThing g visible
  else if startsWithWord "use" ts then imports
  else if startsWithWord "static" ts then variable' g
  else if startsWithWord "const" ts then constant g
  else if startsWithWord "unsafe" ts then uncheckedThing g visible
  else if startsWithWord "mod" ts then module' g
  else if startsWithWord "type" ts then typeAlias g .beforeValue
  else if startsWithWord "struct" ts then record g
  else if startsWithWord "enum" ts then enumeration g
  else if startsWithWord "union" ts && startsWithIdentifier second then union g
  else if startsWithWord "trait" ts ||
      (startsWithWord "auto" ts && startsWithWord "trait" second) then trait g
  else if startsWithWord "impl" ts || (startsWithWord "default" ts && !startsWith "!" second) then
    implementation g
  else if startsWithWord "macro" ts then rule
  else if visible then missing (unmet starts ts)
  else if startsExpansion ts then expansion true
  else missing (unmet starts ts ++ expansionStarts)

end EventSourcing.DefinitionReading
