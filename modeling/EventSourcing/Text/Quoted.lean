import EventSourcing.Text.Hex
import EventSourcing.Text.Unprintable

/-!
# Quoted text

Diagnostics show a text between quotes, so that a reader sees where it begins and ends and which
characters it holds.  The quote, the backslash, the tabulator, the two line breaks and the null
character are written with a backslash; other unprintable characters by their number.

## Main Definitions

* `Text.quoted` — the text between quotes.
* `Text.quotedOption`, `Text.quotedList` — an optional text, a list of texts.
-/

namespace EventSourcing.Text

/-- The hexadecimal digits of a number below 16⁶, without leading zeros. -/
def hexDigits (n : Nat) : List Char :=
  let digits := [n / 1048576, n / 65536, n / 4096, n / 256, n / 16, n].map Hex.low
  match digits.dropWhile (· = 0) with
  | [] => ['0']
  | ds => ds.map Hex.char

/-- The form of a character between quotes. -/
def quotedChar (c : Char) : List Char :=
  if c = '"' then ['\\', '"']
  else if c = '\\' then ['\\', '\\']
  else if c = '\t' then ['\\', 't']
  else if c = '\r' then ['\\', 'r']
  else if c = '\n' then ['\\', 'n']
  else if c.toNat = 0 then ['\\', '0']
  else if isPrintable c then [c]
  else '\\' :: 'u' :: '\x7b' :: (hexDigits c.toNat ++ ['\x7d'])

/-- A text between quotes. -/
def quoted (s : String) : String :=
  String.ofList ('"' :: (s.toList.flatMap quotedChar ++ ['"']))

/-- An optional value, given the form of the value. -/
def optional : Option String → String
  | none => "None"
  | some s => "Some(" ++ s ++ ")"

/-- An optional text. -/
def quotedOption (s : Option String) : String := optional (s.map quoted)

/-- A list of texts. -/
def quotedList (ss : List String) : String := "[" ++ ", ".intercalate (ss.map quoted) ++ "]"

example : quoted "a\"\x7fé" = "\"a\\\"\\u\x7b7f\x7dé\"" := by decide +kernel

end EventSourcing.Text
