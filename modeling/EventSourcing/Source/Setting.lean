import EventSourcing.Source.TypePath

/-!
# Settings in source text

A setting is a plain path alone, one with a tree of arguments behind it, or one that is given a
value.  Attributes are settings in square brackets behind a hash sign.  A list of settings may also
hold literals.

The value of a setting is an expression.  A literal that is the last thing in its list is a value as
it stands, so that a minus sign in front of a number belongs to the number.

## Main Definitions

* `Setting`, `Setting.Shape` — a setting, and what stands behind its path.
* `Setting.read`, `Setting.readItem` — a setting, an item of a list of settings.
* `Setting.readAttributes` — the attributes that stand next.
-/

namespace EventSourcing

/-- What stands behind the path of a setting. -/
inductive Setting.Shape where
  | alone
  /-- A tree, and what it holds. -/
  | list (inside : List Token)
  /-- A value as it is written again. -/
  | value (form : Form) (tokens : List Token)
  deriving Repr, DecidableEq

/-- A setting. -/
structure Setting where
  path : TypePath
  shape : Setting.Shape
  deriving Repr, DecidableEq

/-- An item of a list of settings. -/
inductive Setting.Item where
  | literal
  | setting (s : Setting)
  deriving Repr, DecidableEq

namespace Setting

/-- The number of tokens of the literal that is next. -/
def literalLength (ts : List Token) : Nat := if Source.startsWith "-" ts then 2 else 1

/-- Reads the value of a setting. -/
def readValue (g : Grammar) : Reading Form := do
  let ts ← Source.ahead
  match Source.literalNext? ts with
  | some kind =>
    if Source.ended (ts.drop (literalLength ts)) then
      Source.advanceTo (ts.drop (literalLength ts))
      return .literal kind
    else g.expression true
  | none =>
    if Source.startsWith "#" ts && Source.opens .square (ts.drop 1) then throw .nestedAttribute
    else g.expression true

/-- Reads what stands behind the path of a setting. -/
def readShape (g : Grammar) : Reading Shape := do
  match ← Source.ahead with
  | .opening b :: ts =>
    Source.advanceTree
    return .list (ts.take (ts.length - (Source.behindTree (.opening b :: ts)).length - 1))
  | ts =>
    if Source.startsWith "=" ts then
      Source.readMark "="
      let (form, tokens) ← Source.held (readValue g)
      Source.pass tokens
      return .value form tokens
    else return .alone

/-- Reads a setting.  One keyword may stand for its path. -/
def read (g : Grammar) : Reading Setting := do
  if Source.startsWithWord "unsafe" (← Source.ahead) then
    Source.advance
    return ⟨⟨false, ["unsafe"]⟩, ← readShape g⟩
  else
    let path ← TypePath.read
    return ⟨path, ← readShape g⟩

/-- Reads an item of a list of settings. -/
def readItem (g : Grammar) : Reading Item := do
  let ts ← Source.ahead
  if Source.isLiteralNext ts &&
      !(Source.startsWithAny ["true", "false"] ts && Source.startsWith "=" (ts.drop 1)) then
    let _ ← Source.readLiteral
    return .literal
  else if Source.isWordNext ts || (Source.startsWith "::" ts && Source.isWordNext (ts.drop 2)) then
    return .setting (← read g)
  else Source.missing ["identifier or literal"]

/-- The items of a list of settings, of which at most `limit` are read. -/
def readItemsWithin (g : Grammar) : (limit : Nat) → Reading (List Item)
  | 0 => return []
  | limit + 1 => do
    if Source.ended (← Source.ahead) then return []
    let item ← readItem g
    if Source.ended (← Source.ahead) then return [item]
    Source.readMark ","
    return item :: (← readItemsWithin g limit)

/-- Reads a list of settings. -/
def readItems (g : Grammar) : Reading (List Item) := do
  readItemsWithin g ((← Source.ahead).length + 1)

/-- Reads an attribute. -/
def readAttribute (g : Grammar) : Reading Setting := do
  Source.readMark "#"
  Source.inBrackets .square (read g)

/-- Reads attributes, of which at most `limit` are read. -/
def readAttributesWithin (g : Grammar) : (limit : Nat) → Reading (List Setting)
  | 0 => return []
  | limit + 1 => do
    if Source.startsWith "#" (← Source.ahead) then
      let attribute' ← readAttribute g
      return attribute' :: (← readAttributesWithin g limit)
    else return []

/-- Reads the attributes that stand next. -/
def readAttributes (g : Grammar) : Reading (List Setting) := do
  readAttributesWithin g ((← Source.ahead).length + 1)

/-- Passes over the attributes that stand next. -/
def skipAttributes (g : Grammar) : Reading Unit := do
  let _ ← readAttributes g

/-- Passes over the attributes of what braces hold, which have an exclamation mark. -/
def skipInnerAttributes (g : Grammar) : Reading Unit :=
  Source.repeatedly do
    let ts ← Source.ahead
    if Source.startsWith "#" ts && Source.startsWith "!" (ts.drop 1) then
      Source.readMark "#"
      Source.readMark "!"
      let _ ← Source.inBrackets .square (read g)
      return true
    else return false

example : Source.faultOf? (readItems Grammar.empty) "a, 5, b(c), ," =
    some "expected identifier or literal" := by
  decide +kernel

end Setting

/-- The statements of a block that may start with attributes of its own, and the braces around
them. -/
def Grammar.body (g : Grammar) : Reading Unit :=
  Source.inBrackets .curly do
    Setting.skipInnerAttributes g
    g.statements

end EventSourcing
