import EventSourcing.Decimal.Basic

/-!
# JSON values

A JSON value as a tree.  Integers are exact.  A number that is written with a fraction or an
exponent, that is negative zero, or that is too large for 64 bits is no integer: it is kept as the
decimal it was written as.

## Main Definitions

* `Json` — values.
* `Json.insert` — a member list in key order, with one member for each key.
* `Json.sorted` — the value with the members of every object in key order.
-/

namespace EventSourcing

/-- A JSON value.  The members of an object are in the order in which they are written. -/
inductive Json where
  | null
  | bool (b : Bool)
  | int (n : Int)
  | decimal (d : Decimal)
  | str (s : String)
  | arr (items : List Json)
  | obj (members : List (String × Json))
  deriving Repr, BEq, Inhabited

namespace Json

/-- Puts a member into a list that is in key order; a member of the same key gives way. -/
def insert {α : Type} (key : String) (value : α) : List (String × α) → List (String × α)
  | [] => [(key, value)]
  | (k, v) :: rest =>
    if key < k then (key, value) :: (k, v) :: rest
    else if key = k then (key, value) :: rest
    else (k, v) :: insert key value rest

/-- The members in key order; of two members of one key the later one stays. -/
def sortMembers {α : Type} (members : List (String × α)) : List (String × α) :=
  members.foldl (fun sorted m => insert m.1 m.2 sorted) []

mutual

/-- The value with the members of every object in key order. -/
def sorted : Json → Json
  | .arr items => .arr (sortedItems items)
  | .obj members => .obj (sortMembers (sortedMembers members))
  | v => v

/-- Sorts every item of a list. -/
def sortedItems : List Json → List Json
  | [] => []
  | v :: rest => v.sorted :: sortedItems rest

/-- Sorts the value of every member. -/
def sortedMembers : List (String × Json) → List (String × Json)
  | [] => []
  | (k, v) :: rest => (k, v.sorted) :: sortedMembers rest

end

/-- The value of a member of an object. -/
def member? (key : String) : Json → Option Json
  | .obj members => members.lookup key
  | _ => none

end Json
end EventSourcing
