/-!
# Searching text

## Main Definitions

* `Text.contains` — whether a text occurs in another.
-/

namespace EventSourcing.Text

/-- Whether characters occur in a row. -/
def occursIn (word : List Char) : List Char → Bool
  | [] => word.isEmpty
  | c :: rest => word.isPrefixOf (c :: rest) || occursIn word rest

/-- Whether a text contains a word. -/
def contains (word text : String) : Bool := occursIn word.toList text.toList

example : contains "bc" "abcd" = true ∧ contains "" "" = true ∧ contains "ba" "abc" = false := by
  decide +kernel

end EventSourcing.Text
