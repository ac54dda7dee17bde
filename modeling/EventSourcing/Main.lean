import EventSourcing.Demo

/-!
# The demonstration program

Prints the tour of an account's life.
-/

open EventSourcing

/-- Prints the lines of the tour; a failure goes to the error output and is the exit code. -/
def main : IO UInt32 := do
  let now ← IO.monoMsNow
  let (lines, failure) := Demo.tour ⟨.timeOrdered now 0⟩ (Demo.everyMillisecond now)
  for line in lines do
    IO.println line
  match failure with
  | none => return 0
  | some message =>
    IO.eprintln ("Error: " ++ message)
    return 1
