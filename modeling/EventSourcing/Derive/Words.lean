import EventSourcing.Text.Alphanumeric
import EventSourcing.Text.LetterCase

/-!
# The words of a name

A name is a row of words, written in one of several ways.  Words end at characters that are neither
letters nor numbers, before a capital behind a small letter, and before the last of several capitals
if a small letter follows: `HTTPServer` is `HTTP`, `Server`.  A character of neither case, such as a
digit, counts as of the case before it.

## Main Definitions

* `Words.ofName` — the words of a name.
* `Words.kebab`, `Words.upperCamel` — the name written again: `funds-deposited`, `FundsDeposited`.
-/

namespace EventSourcing.Words

/-- The case of the last character of a word that has one. -/
inductive Mode where
  | none
  | lower
  | upper
  deriving DecidableEq

/-- The case behind one more character. -/
def Mode.next (mode : Mode) (c : Char) : Mode :=
  if Text.isLower c then .lower else if Text.isUpper c then .upper else mode

/-- The words of letters and numbers in a row.  `word` is the start of the first word, whose last
character with a case is of case `mode`. -/
def split (mode : Mode) (word : List Char) : List Char → List (List Char)
  | [] => []
  | [c] => [word ++ [c]]
  | c :: d :: rest =>
    if mode.next c = .lower && Text.isUpper d then
      (word ++ [c]) :: split .none [] (d :: rest)
    else if mode = .upper && Text.isUpper c && Text.isLower d then
      word :: split .none [c] (d :: rest)
    else split (mode.next c) (word ++ [c]) (d :: rest)

/-- The words of a name. -/
def ofName (name : String) : List (List Char) :=
  (name.toList.splitOnP fun c => !Text.isAlphanumeric c).flatMap (split .none [])

/-- A word in small letters; a capital sigma at its end takes the form for the end of a word. -/
def small : List Char → List Char
  | [] => []
  | ['Σ'] => ['ς']
  | c :: rest => Text.toLower c ++ small rest

/-- A word with a capital in front. -/
def capitalized : List Char → List Char
  | [] => []
  | c :: rest => Text.toUpper c ++ small rest

/-- The words in small letters with hyphens between them. -/
def kebab (name : String) : String :=
  "-".intercalate ((ofName name).map fun w => String.ofList (small w))

/-- The words with capitals in front, written together. -/
def upperCamel (name : String) : String :=
  String.ofList ((ofName name).flatMap capitalized)

example : kebab "HTTPServer" = "http-server" ∧ upperCamel "v2_item2D" = "V2Item2D" := by
  decide +kernel

end EventSourcing.Words
