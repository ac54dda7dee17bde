import EventSourcing.Text.Blank

/-!
# Similar names

Two names are the more similar the more characters they share at nearly the same places, the fewer
of these are in another order, and the longer the front is that they have in common.  The measure is
that of Jaro, with the bonus for a common front that Winkler added; it is a fraction between zero
and one, computed exactly.

## Main Definitions

* `Similarity.ofNames` — how similar two names are.
* `Similarity.suggestion?` — the known name that is most similar to an unknown one.
-/

namespace EventSourcing

/-- A fraction between zero and one. -/
structure Similarity where
  numerator : Nat
  denominator : Nat
  deriving Repr, DecidableEq

namespace Similarity

/-- Whether one fraction is less than another. -/
def less (a b : Similarity) : Bool :=
  a.numerator * b.denominator < b.numerator * a.denominator

/-- The place of a character among others, if it stands there near the place `i` and has not been
matched yet. -/
def placeOf? (c : Char) (i range : Nat) (others : List Char) (matched : List Nat) : Option Nat :=
  (List.range others.length).find? fun j =>
    i ≤ j + range && j ≤ i + range && others[j]? = some c && !matched.contains j

/-- The characters that are matched with others, and the places of their matches. -/
def matchings (range : Nat) (others : List Char) :
    (i : Nat) → (matched : List Nat) → List Char → List Char × List Nat
  | _, matched, [] => ([], matched)
  | i, matched, c :: cs =>
    match placeOf? c i range others matched with
    | some j =>
      let (found, matched) := matchings range others (i + 1) (j :: matched) cs
      (c :: found, matched)
    | none => matchings range others (i + 1) matched cs

/-- How similar two rows of characters are, without a bonus. -/
def ofCharacters (a b : List Char) : Similarity :=
  if a.isEmpty && b.isEmpty then ⟨1, 1⟩
  else
    let (found, places) := matchings (max a.length b.length / 2 - 1) b 0 [] a
    let partners := ((List.range b.length).filter places.contains).filterMap fun j => b[j]?
    let m := found.length
    let displaced := ((found.zip partners).filter fun p => p.1 ≠ p.2).length / 2
    if m = 0 then ⟨0, 1⟩
    else
      ⟨m * m * b.length + m * m * a.length + (m - displaced) * a.length * b.length,
        3 * m * a.length * b.length⟩

/-- The length of the common front of two rows of characters. -/
def commonFront (a b : List Char) : Nat := ((a.zip b).takeWhile fun p => p.1 = p.2).length

/-- How similar two names are.  Names that are similar without it get a bonus for each of the first
four characters that they have in common. -/
def ofNames (a b : String) : Similarity :=
  let plain := ofCharacters a.toList b.toList
  if less ⟨7, 10⟩ plain then
    ⟨10 * plain.numerator +
        commonFront (a.toList.take 4) b.toList * (plain.denominator - plain.numerator),
      10 * plain.denominator⟩
  else plain

/-- The first of the known names that are most similar to an unknown one, if it is similar
enough. -/
def suggestion? (name : String) (known : List String) : Option String :=
  (known.foldl (fun best k =>
    let similarity := ofNames name k
    let bar := (best.map Prod.snd).getD ⟨8, 10⟩
    if less bar similarity then some (k, similarity) else best) none).map Prod.fst

example : suggestion? "kinds" ["id", "kind"] = some "kind" ∧ suggestion? "B" ["id"] = none := by
  decide +kernel

end Similarity
end EventSourcing
