import EventSourcing.Source.Grammar

/-!
# Plain paths

A plain path is a row of identifiers with `::` between them, perhaps also in front.  The words that
lead to a place in the tree of modules may stand for identifiers.

## Main Definitions

* `TypePath` — a plain path.
* `TypePath.text` — its source text.
* `TypePath.read` — its reading.
-/

namespace EventSourcing

/-- A plain path. -/
structure TypePath where
  /-- Whether the path starts with `::`. -/
  absolute : Bool
  names : List String
  deriving Repr, DecidableEq

namespace TypePath

/-- The names with `::` between them. -/
def name (p : TypePath) : String := "::".intercalate p.names

/-- The source text of a path. -/
def text (p : TypePath) : String := (if p.absolute then "::" else "") ++ p.name

/-- Whether a segment of a plain path is next. -/
def isSegmentNext (ts : List Token) : Bool :=
  Source.startsWithIdentifier ts || Source.startsWithAny ["super", "self", "Self", "crate"] ts

/-- The segments of a plain path, of which at most `limit` are read. -/
def readNames : (limit : Nat) → Reading (List String)
  | 0 => return []
  | limit + 1 => do
    match ← Source.ahead with
    | .word w :: rest =>
      if isSegmentNext (.word w :: rest) then
        Source.advance
        if ← Source.takeMark "::" then
          if isSegmentNext (← Source.ahead) then return w :: (← readNames limit)
          else Source.missing ["path segment after `::`"]
        else return [w]
      else throw (.keyword w)
    | _ => Source.missing ["identifier"]

/-- Reads a plain path. -/
def read : Reading TypePath := do
  let absolute ← Source.takeMark "::"
  return ⟨absolute, ← readNames ((← Source.ahead).length + 1)⟩

/-- The plain path that makes up a text. -/
def read? (source : String) : Option TypePath :=
  match (Source.tokens? source).map read.run with
  | some (.ok (path, _)) => some path
  | _ => none

example : (read? "a :: b").map text = some "a::b" ∧ read? "&X" = none ∧
    (read? "::r#fn").map names = some ["r#fn"] ∧
    Source.faultOf? read "A::type" = some "expected path segment after `::`" := by
  decide +kernel

end TypePath
end EventSourcing
