import EventSourcing.Source.Literal
import EventSourcing.Text.Quoted

/-!
# The tokens of a text

Between tokens stand white space, the two invisible marks of writing direction, and comments: up to
the end of the line behind `//`, or from `/*` to `*/`, where comments may be nested.  A comment that
documents what follows, `/// …` or `/** … */`, or what it stands in, `//! …` or `/*! … */`, is an
attribute that holds its text.  A third slash or star more makes it a plain comment again.

## Main Definitions

* `Source.tokens?` — the tokens of a text.
-/

namespace EventSourcing.Source

/-- The inside of a comment of which `depth` parts are open, up to where it closes, and what stands
behind it. -/
def upToCommentEnd? : (depth : Nat) → List Char → Option (List Char × List Char)
  | 0, cs => some ([], cs)
  | depth + 1, '/' :: '*' :: cs =>
    (upToCommentEnd? (depth + 2) cs).map fun s => ('/' :: '*' :: s.1, s.2)
  | depth + 1, '*' :: '/' :: cs =>
    (upToCommentEnd? depth cs).map fun s => ('*' :: '/' :: s.1, s.2)
  | depth + 1, c :: cs => (upToCommentEnd? (depth + 1) cs).map fun s => (c :: s.1, s.2)
  | _ + 1, [] => none

/-- The characters of a line, and what stands from its end on. -/
def line : List Char → List Char × List Char
  | [] => ([], [])
  | '\n' :: cs => ([], '\n' :: cs)
  | '\r' :: '\n' :: cs => ([], '\r' :: '\n' :: cs)
  | c :: cs =>
    let (inside, rest) := line cs
    (c :: inside, rest)

/-- White space, or an invisible mark of writing direction. -/
def isGap (c : Char) : Bool := Text.isSpace c || c = '\u200e' || c = '\u200f'

/-- The attribute that a documenting comment stands for; `inner` if it documents what it stands
in. -/
def documentation (inner : Bool) (comment : List Char) : List Token :=
  .mark '#' false :: (if inner then [.mark '!' false] else []) ++
    [.opening .square, .word "doc", .mark '=' false,
      .literal .text (Text.quoted (String.ofList comment)), .closing .square]

/-- A comment from its first characters on: the tokens that it stands for, and what stands behind
it. -/
def comment? : List Char → Option (List Token × List Char)
  | '/' :: '/' :: cs =>
    let (inside, rest) := line cs
    match inside with
    | '/' :: '/' :: _ => some ([], rest)
    | '/' :: inside => some (documentation false inside, rest)
    | '!' :: inside => some (documentation true inside, rest)
    | _ => some ([], rest)
  | '/' :: '*' :: '*' :: '/' :: rest => some ([], rest)
  | '/' :: '*' :: cs => do
    let (inside, rest) ← upToCommentEnd? 1 cs
    match inside with
    | '*' :: '*' :: _ => some ([], rest)
    | '*' :: inside => some (documentation false inside.dropLast.dropLast, rest)
    | '!' :: inside => some (documentation true inside.dropLast.dropLast, rest)
    | _ => some ([], rest)
  | _ => none

/-- The characters that are marks. -/
def marks : List Char := "~!@#$%^&*-=+|;:,<.>/?'".toList

/-- Whether a mark stands in front, and not a comment. -/
def marksNext : List Char → Bool
  | '/' :: '/' :: _ | '/' :: '*' :: _ => false
  | c :: _ => marks.contains c
  | [] => false

/-- A name in front, perhaps a raw one, and what stands behind it. -/
def name? (cs : List Char) : Option (List Char × List Char) :=
  let plain (cs : List Char) : Option (List Char × List Char) :=
    if cs.head?.any Text.startsName then
      some (cs.takeWhile Text.continuesName, cs.dropWhile Text.continuesName)
    else none
  match cs with
  | 'r' :: '#' :: cs =>
    match plain cs with
    | some (name, rest) =>
      if ["_", "super", "self", "Self", "crate"].contains (String.ofList name) then none
      else some ('r' :: '#' :: name, rest)
    | none => none
  | cs => plain cs

/-- A lifetime, behind whose name there is no other apostrophe. -/
def lifetime? : List Char → Option (Token × List Char)
  | '\'' :: cs => do
    let (name, rest) ← name? cs
    if rest.head? = some '\'' then none
    else some (.lifetime (String.ofList ('\'' :: name)), rest)
  | _ => none

/-- A mark or a bracket. -/
def mark? : List Char → Option (Token × List Char)
  | [] => none
  | c :: cs =>
    match Bracket.opened? c, Bracket.closed? c with
    | some b, _ => some (.opening b, cs)
    | none, some b => some (.closing b, cs)
    | none, none =>
      if c ≠ '\'' && marksNext (c :: cs) then some (.mark c (marksNext cs), cs) else none

/-- The token in front, and what stands behind it. -/
def token? (cs : List Char) : Option (Token × List Char) :=
  Literal.scan? cs <|> lifetime? cs <|> mark? cs <|>
    (name? cs).map fun s => (.word (String.ofList s.1), s.2)

/-- The tokens of characters, of which at most `limit` are left. -/
def tokensWithin : (limit : Nat) → List Char → Option (List Token)
  | _, [] => some []
  | 0, _ :: _ => none
  | limit + 1, c :: cs =>
    if isGap c then tokensWithin limit cs
    else
      match comment? (c :: cs) with
      | some (ts, rest) => (tokensWithin limit rest).map (ts ++ ·)
      | none => do
        let (t, rest) ← token? (c :: cs)
        return t :: (← tokensWithin limit rest)

/-- The tokens of a text; nothing if it holds something else, or a bracket without its partner. -/
def tokens? (source : String) : Option (List Token) :=
  (tokensWithin source.toList.length source.toList).filter (balanced [])

example : (tokens? "a :: r#b<'c, \"d e\"> /* f /* g */ */").map text =
    some "a::r#b<'c,\"de\">" := by
  decide +kernel

example : (tokens? "A /// x\n").map text = some "A#[doc=\"x\"]" ∧ tokens? "(a]" = none := by
  decide +kernel

end EventSourcing.Source
