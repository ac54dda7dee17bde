/-!
# Value objects

A value object is known by some of its parts: two are the same if these parts are equal, and their
hashes are then the same too.

## Main Definitions

* `ValueObject` — a type with the parts that count.
* `ValueObject.same`, `ValueObject.hashOf`, `ValueObject.distinct` — sameness, hashes, and how many
  different ones there are.
-/

namespace EventSourcing

/-- A type whose values are known by some of their parts. -/
class ValueObject (α : Type) where
  Parts : Type
  parts : α → Parts
  [decEq : DecidableEq Parts]
  [hashable : Hashable Parts]

namespace ValueObject

variable {α : Type} [v : ValueObject α]

attribute [reducible, instance] ValueObject.decEq
attribute [reducible, instance] ValueObject.hashable

/-- Whether two values are the same. -/
def same (a b : α) : Bool := v.parts a = v.parts b

/-- The hash of a value. -/
def hashOf (a : α) : UInt64 := hash (v.parts a)

/-- The values of a list, each once. -/
def distinct : List α → List α
  | [] => []
  | a :: rest => a :: (distinct rest).filter fun b => !same a b

/-- The same values have the same hash. -/
theorem hashOf_eq_of_same {a b : α} (h : same a b = true) : hashOf a = hashOf b := by
  have h : v.parts a = v.parts b := by simpa [same] using h
  simp only [hashOf, h]

end ValueObject
end EventSourcing
