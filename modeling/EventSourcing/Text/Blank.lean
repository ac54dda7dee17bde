/-!
# Blank text

A text is blank if it holds nothing but white space, so that trimming it leaves nothing.  White
space is the Unicode property `White_Space`: 25 characters.

## Main Definitions

* `Text.isSpace` — the character has the property.
* `Text.isBlank` — every character of the text has it.
-/

namespace EventSourcing.Text

/-- The white space characters as closed ranges of code points, ascending and apart. -/
def spaceRanges : List (Nat × Nat) :=
  [(0x09, 0x0D), (0x20, 0x20), (0x85, 0x85), (0xA0, 0xA0), (0x1680, 0x1680), (0x2000, 0x200A),
    (0x2028, 0x2029), (0x202F, 0x202F), (0x205F, 0x205F), (0x3000, 0x3000)]

/-- Whether a code point lies in one of the closed ranges. -/
def inRanges (ranges : List (Nat × Nat)) (n : Nat) : Bool :=
  ranges.any fun r => r.1 ≤ n && n ≤ r.2

example : (spaceRanges.map fun r => r.2 + 1 - r.1).sum = 25 := by decide

/-- A white space character. -/
def isSpace (c : Char) : Bool := inRanges spaceRanges c.toNat

/-- A text of white space only; the empty text is one. -/
def isBlank (s : String) : Bool := s.toList.all isSpace

/-- The table adds to the four white space characters that `Char.isWhitespace` knows. -/
theorem isSpace_of_isWhitespace {c : Char} (h : c.isWhitespace = true) : isSpace c = true := by
  simp [Char.isWhitespace] at h
  rcases h with ((h | h) | h) | h <;> subst h <;> decide

example : isBlank " \t\u3000" = true ∧ isBlank "\u200b" = false := by decide

end EventSourcing.Text
