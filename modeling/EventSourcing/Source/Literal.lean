import EventSourcing.Source.Token
import EventSourcing.Text.Hex
import EventSourcing.Text.WordCharacter

/-!
# Literals in source text

A literal is a number, or characters between quotes.  A letter in front of a quote tells which kind
of literal it is, and `r` that backslashes stand for themselves; such a raw literal may have hash
signs around its quotes.  Behind a literal there may be a name, its suffix.

A number with a decimal point or an exponent is a decimal number.  A point that another one follows
is not a part of a number, nor one that a name follows.

## Main Definitions

* `Literal.scan?` — the literal at the front of characters.
* `Literal.value?` — the text that a literal of text stands for.
-/

namespace EventSourcing.Literal

/-- The characters of a literal that has been scanned, and what stands behind it. -/
abbrev Scanned := List Char × List Char

/-- Adds the suffix to a literal. -/
def withSuffix (scanned : Scanned) : Scanned :=
  match scanned.2 with
  | c :: _ =>
    if Text.startsName c then
      (scanned.1 ++ scanned.2.takeWhile Text.continuesName,
        scanned.2.dropWhile Text.continuesName)
    else scanned
  | [] => scanned

/-! ### Numbers -/

/-- A digit or an underscore. -/
def isDigitOrGap (c : Char) : Bool := c.isDigit || c = '_'

/-- The digits of an exponent and the sign in front of them.  There must be a digit, and underscores
may stand anywhere. -/
def exponent? : (signed valued : Bool) → List Char → Option Scanned
  | signed, valued, c :: cs =>
    if c.isDigit then (exponent? signed true cs).map fun s => (c :: s.1, s.2)
    else if c = '_' then (exponent? signed valued cs).map fun s => (c :: s.1, s.2)
    else if (c = '+' || c = '-') && !valued then
      if signed then none else (exponent? true valued cs).map fun s => (c :: s.1, s.2)
    else if valued then some ([], c :: cs)
    else none
  | _, valued, [] => if valued then some ([], []) else none

/-- A decimal number without its suffix. -/
def decimal? (cs : List Char) : Option Scanned :=
  let whole := cs.takeWhile isDigitOrGap
  match cs.dropWhile isDigitOrGap with
  | '.' :: rest =>
    if rest.head?.any fun c => c = '.' || Text.startsName c then none
    else
      let front := whole ++ '.' :: rest.takeWhile isDigitOrGap
      let rest := rest.dropWhile isDigitOrGap
      match rest with
      | e :: behind =>
        if e = 'e' || e = 'E' then
          match exponent? false false behind with
          | some (digits, rest) => some (front ++ e :: digits, rest)
          | none => some (front, rest)
        else some (front, rest)
      | [] => some (front, [])
  | e :: rest =>
    if e = 'e' || e = 'E' then
      (exponent? false false rest).map fun s => (whole ++ e :: s.1, s.2)
    else none
  | [] => none

/-- What a character is worth as a digit, up to the letter `f`. -/
def digitValue? (c : Char) : Option Nat :=
  if c.toNat < 0x80 then (Hex.digit? (UInt8.ofNat c.toNat)).map Fin.val else none

/-- The digits of a base.  A decimal digit that is too large spoils the number, a letter ends it. -/
def digits? (base : Nat) : (empty : Bool) → List Char → Option Scanned
  | empty, c :: cs =>
    if c = '_' then
      if empty && base = 10 then none else (digits? base empty cs).map fun s => (c :: s.1, s.2)
    else if ((digitValue? c).map fun d => decide (d < base)).getD false then
      (digits? base false cs).map fun s => (c :: s.1, s.2)
    else if c.isDigit || empty then none
    else some ([], c :: cs)
  | empty, [] => if empty then none else some ([], [])

/-- A whole number without its suffix. -/
def integer? : List Char → Option Scanned
  | '0' :: 'x' :: cs => (digits? 16 true cs).map fun s => ('0' :: 'x' :: s.1, s.2)
  | '0' :: 'o' :: cs => (digits? 8 true cs).map fun s => ('0' :: 'o' :: s.1, s.2)
  | '0' :: 'b' :: cs => (digits? 2 true cs).map fun s => ('0' :: 'b' :: s.1, s.2)
  | cs => digits? 10 true cs

/-- A number with its suffix, behind which no character of a name may follow. -/
def number? (cs : List Char) : Option (LiteralKind × Scanned) :=
  let whole (kind : LiteralKind) (scanned : Scanned) : Option (LiteralKind × Scanned) :=
    let scanned := withSuffix scanned
    if scanned.2.head?.any Text.continuesName then none else some (kind, scanned)
  if cs.head?.any Char.isDigit then
    ((decimal? cs).bind (whole .decimal)) <|> ((integer? cs).bind (whole .integer))
  else none

/-! ### Quotes -/

/-- The characters up to a closing quote, with it, and what stands behind.  A backslash takes the
character behind it along. -/
def upToQuote? (quote : Char) : List Char → Option Scanned
  | [] => none
  | '\\' :: c :: cs => (upToQuote? quote cs).map fun s => ('\\' :: c :: s.1, s.2)
  | c :: cs =>
    if c = quote then some ([c], cs) else (upToQuote? quote cs).map fun s => (c :: s.1, s.2)

/-- The characters up to the first quote with as many hash signs behind it as stood in front. -/
def upToRawQuote? (hashes : List Char) : List Char → Option Scanned
  | [] => none
  | c :: cs =>
    if c = '"' && hashes.isPrefixOf cs then some (c :: hashes, cs.drop hashes.length)
    else (upToRawQuote? hashes cs).map fun s => (c :: s.1, s.2)

/-- A raw literal from its hash signs on. -/
def raw? (cs : List Char) : Option Scanned :=
  let hashes := cs.takeWhile (· = '#')
  match cs.dropWhile (· = '#') with
  | '"' :: rest => (upToRawQuote? hashes rest).map fun s => (hashes ++ '"' :: s.1, s.2)
  | _ => none

/-- One character, perhaps written with a backslash, and what stands behind it. -/
def oneCharacter? : List Char → Option Scanned
  | '\\' :: 'x' :: a :: b :: cs => some (['\\', 'x', a, b], cs)
  | '\\' :: 'u' :: '\x7b' :: cs =>
    some ('\\' :: 'u' :: '\x7b' :: cs.takeWhile (· ≠ '\x7d') ++ ['\x7d'],
      (cs.dropWhile (· ≠ '\x7d')).drop 1)
  | '\\' :: c :: cs => if "nrt\\0'\"".toList.contains c then some (['\\', c], cs) else none
  | c :: cs => some ([c], cs)
  | [] => none

/-- A character between apostrophes, from the first of them on. -/
def character? : List Char → Option Scanned
  | '\'' :: cs => do
    let (inside, rest) ← oneCharacter? cs
    match rest with
    | '\'' :: rest => some ('\'' :: inside ++ ['\''], rest)
    | _ => none
  | _ => none

/-- A text between quotes, from the first of them on. -/
def cooked? : List Char → Option Scanned
  | '"' :: cs => (upToQuote? '"' cs).map fun s => ('"' :: s.1, s.2)
  | _ => none

/-- A literal with quotes, without its suffix. -/
def betweenQuotes? (cs : List Char) : Option (LiteralKind × Scanned) :=
  let behind (front : List Char) (kind : LiteralKind) (scan? : List Char → Option Scanned) :
      Option (LiteralKind × Scanned) :=
    if front.isPrefixOf cs then
      (scan? (cs.drop front.length)).map fun s => (kind, (front ++ s.1, s.2))
    else none
  behind [] .text cooked? <|> behind ['r'] .text raw? <|>
    behind ['b'] .bytes cooked? <|> behind ['b', 'r'] .bytes raw? <|>
    behind ['c'] .nullEnded cooked? <|> behind ['c', 'r'] .nullEnded raw? <|>
    behind ['b'] .byte character? <|> behind [] .character character?

/-- The literal at the front of characters, and what stands behind it. -/
def scan? (cs : List Char) : Option (Token × List Char) :=
  let token (found : LiteralKind × Scanned) : Token × List Char :=
    (.literal found.1 (String.ofList found.2.1), found.2.2)
  ((betweenQuotes? cs).map fun found => token (found.1, withSuffix found.2)) <|>
    (number? cs).map token

/-! ### Values -/

/-- The value of the digits of a base and what stands behind them; underscores do not count. -/
def wholeFrom (base : Nat) : (value : Nat) → List Char → Nat × List Char
  | value, [] => (value, [])
  | value, c :: cs =>
    match (digitValue? c).filter (· < base) with
    | some d => wholeFrom base (base * value + d) cs
    | none => if c = '_' then wholeFrom base value cs else (value, c :: cs)

/-- The value of a whole number, and its suffix. -/
def whole : List Char → Nat × List Char
  | '0' :: 'x' :: cs => wholeFrom 16 0 cs
  | '0' :: 'o' :: cs => wholeFrom 8 0 cs
  | '0' :: 'b' :: cs => wholeFrom 2 0 cs
  | cs => wholeFrom 10 0 cs

/-- The value of digits in base sixteen; underscores do not count. -/
def codePoint (cs : List Char) : Nat :=
  cs.foldl (fun n c => ((digitValue? c).map fun d => 16 * n + d).getD n) 0

/-- The characters that stand between quotes.  A backslash at the end of a line takes the white
space at the start of the next one along.  `limit` bounds the number of characters. -/
def unescaped : (limit : Nat) → List Char → List Char
  | 0, _ | _, [] => []
  | limit + 1, '\\' :: 'x' :: a :: b :: cs =>
    Char.ofNat (codePoint [a, b]) :: unescaped limit cs
  | limit + 1, '\\' :: 'u' :: '\x7b' :: cs =>
    Char.ofNat (codePoint (cs.takeWhile (· ≠ '\x7d'))) ::
      unescaped limit ((cs.dropWhile (· ≠ '\x7d')).drop 1)
  | limit + 1, '\\' :: c :: cs =>
    if c = 'n' then '\n' :: unescaped limit cs
    else if c = 'r' then '\r' :: unescaped limit cs
    else if c = 't' then '\t' :: unescaped limit cs
    else if c = '0' then '\x00' :: unescaped limit cs
    else if c = '\n' || c = '\r' then unescaped limit (cs.dropWhile (" \t\n\r".toList.contains ·))
    else c :: unescaped limit cs
  | limit + 1, '\r' :: '\n' :: cs => '\n' :: unescaped limit cs
  | limit + 1, c :: cs => c :: unescaped limit cs

/-- The text that a literal of text stands for. -/
def value? (literal : String) : Option String :=
  match literal.toList with
  | '"' :: cs => (upToQuote? '"' cs).map fun s =>
    String.ofList (unescaped s.1.length s.1.dropLast)
  | 'r' :: cs =>
    let hashes := cs.takeWhile (· = '#')
    (upToRawQuote? hashes (cs.drop (hashes.length + 1))).map fun s =>
      String.ofList (s.1.take (s.1.length - hashes.length - 1))
  | _ => none

example : (scan? "1.5e-3_u.x".toList).map (fun s => (s.1.text, String.ofList s.2)) =
    some ("1.5e-3_u", ".x") := by decide +kernel

example : (scan? "1..2".toList).map (fun s => (s.1.text, String.ofList s.2)) =
    some ("1", "..2") := by decide +kernel

example : whole "0x1F_u8".toList = (0x1F, "u8".toList) := by decide +kernel

example : value? "r#\"a\">\"#" = some "a\">" ∧ value? "\"\\u\x7be9\x7d\\n\"" = some "é\n" := by
  decide +kernel

end EventSourcing.Literal
