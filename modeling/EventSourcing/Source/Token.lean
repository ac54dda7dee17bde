import EventSourcing.Text.Blank

/-!
# Tokens of source text

Source text is a row of tokens: words, lifetimes, literals, marks of one character, and brackets.
What stands between a bracket and the one that closes it forms a whole with them, a tree; any other
token is a tree on its own.  Operators of several characters are marks that are joined.

## Main Definitions

* `Token` — a token.
* `Source.behindTree` — what stands behind the first tree.
* `Source.startsWith`, `Source.ended` — the marks in front, whether nothing is left inside brackets.
* `Source.text` — tokens written together, without white space.
-/

namespace EventSourcing

/-- The brackets that come in pairs. -/
inductive Bracket where
  | round
  | square
  | curly
  deriving Repr, DecidableEq

namespace Bracket

/-- The bracket that opens a tree. -/
def front : Bracket → Char
  | round => '('
  | square => '['
  | curly => '\x7b'

/-- The bracket that closes a tree. -/
def back : Bracket → Char
  | round => ')'
  | square => ']'
  | curly => '\x7d'

/-- The name of a pair of brackets. -/
def name : Bracket → String
  | round => "parentheses"
  | square => "square brackets"
  | curly => "curly braces"

/-- The pair that a character opens. -/
def opened? (c : Char) : Option Bracket := [round, square, curly].find? fun b => b.front = c

/-- The pair that a character closes. -/
def closed? (c : Char) : Option Bracket := [round, square, curly].find? fun b => b.back = c

end Bracket

/-- The kinds of literals. -/
inductive LiteralKind where
  | text
  | bytes
  /-- A text that ends in a null character. -/
  | nullEnded
  | byte
  | character
  | integer
  | decimal
  | truth
  deriving Repr, DecidableEq

/-- A token of source text. -/
inductive Token where
  /-- A name or a keyword.  A raw name has `r#` in front. -/
  | word (text : String)
  /-- A lifetime with its apostrophe. -/
  | lifetime (text : String)
  /-- A literal as it is written. -/
  | literal (kind : LiteralKind) (text : String)
  /-- A mark; `joined` if another mark follows at once. -/
  | mark (c : Char) (joined : Bool)
  | opening (bracket : Bracket)
  | closing (bracket : Bracket)
  deriving Repr, DecidableEq

/-- The characters of a token. -/
def Token.text : Token → String
  | .word text | .lifetime text | .literal _ text => text
  | .mark c _ => c.toString
  | .opening b => b.front.toString
  | .closing b => b.back.toString

namespace Source

/-- Tokens written together, without white space. -/
def text (ts : List Token) : String :=
  String.ofList ((ts.flatMap fun t => t.text.toList).filter fun c => !Text.isSpace c)

/-- Whether nothing is left of the text or inside the brackets around. -/
def ended : List Token → Bool
  | [] | .closing _ :: _ => true
  | _ => false

/-- What stands behind the bracket that closes the last of `opened` trees. -/
def behindTrees : (opened : Nat) → List Token → List Token
  | 0, ts => ts
  | _, [] => []
  | opened + 1, t :: ts =>
    match t with
    | .opening _ => behindTrees (opened + 2) ts
    | .closing _ => behindTrees opened ts
    | _ => behindTrees (opened + 1) ts

/-- What stands behind the first tree; nothing is behind the end of the brackets around. -/
def behindTree : List Token → List Token
  | .opening _ :: ts => behindTrees 1 ts
  | .closing b :: ts => .closing b :: ts
  | _ :: ts => ts
  | [] => []

/-- Whether tokens start with marks, all but the last joined to the next one. -/
def startsWithMarks : (marks : List Char) → List Token → Bool
  | [], _ => true
  | [m], .mark c _ :: _ => c = m
  | m :: marks, .mark c true :: ts => c = m && startsWithMarks marks ts
  | _, _ => false

/-- Whether tokens start with the marks of an operator. -/
def startsWith (marks : String) (ts : List Token) : Bool := startsWithMarks marks.toList ts

/-- Whether tokens start with a word. -/
def startsWithWord (w : String) : List Token → Bool
  | .word text :: _ => text = w
  | _ => false

/-- Whether tokens start with one of some words. -/
def startsWithAny (ws : List String) : List Token → Bool
  | .word text :: _ => ws.contains text
  | _ => false

/-- Whether tokens start with an opening bracket. -/
def opens (b : Bracket) : List Token → Bool
  | .opening found :: _ => found = b
  | _ => false

/-- Whether tokens start with a lifetime. -/
def startsWithLifetime : List Token → Bool
  | .lifetime _ :: _ => true
  | _ => false

/-- Whether every bracket is closed by its own kind; `opened` holds those that wait for it. -/
def balanced : (opened : List Bracket) → List Token → Bool
  | opened, [] => opened.isEmpty
  | opened, .opening b :: ts => balanced (b :: opened) ts
  | b :: opened, .closing found :: ts => found = b && balanced opened ts
  | [], .closing _ :: _ => false
  | opened, _ :: ts => balanced opened ts

example :
    behindTree [.opening .round, .word "a", .opening .curly, .closing .curly, .closing .round,
      .word "b"] = [.word "b"] := by
  decide +kernel

end Source
end EventSourcing
