/-!
# Lines

A line ends at a line feed, or at a carriage return with a line feed behind it.  A carriage return
alone is a part of its line.

## Main Definitions

* `Text.firstLine` — a text up to the end of its first line.
-/

namespace EventSourcing.Text

/-- The characters of the first line. -/
def firstLineOf : List Char → List Char
  | [] => []
  | '\n' :: _ => []
  | '\r' :: '\n' :: _ => []
  | c :: rest => c :: firstLineOf rest

/-- A text up to the end of its first line. -/
def firstLine (text : String) : String := String.ofList (firstLineOf text.toList)

/-- A line holds no line feed. -/
theorem not_mem_firstLineOf (cs : List Char) : '\n' ∉ firstLineOf cs := by
  fun_induction firstLineOf cs with
  | case1 => simp
  | case2 => simp
  | case3 => simp
  | case4 c rest first _ ih =>
    intro h
    rcases List.mem_cons.mp h with rfl | h
    · exact first rfl
    · exact ih h

example : firstLine "a\rb\r\nc" = "a\rb" ∧ firstLine "\r" = "\r" := by decide +kernel

end EventSourcing.Text
