/-!
# Decimals

A number as it is written with a sign, digits and an exponent.  Two decimals may stand for one
number: `1.50` and `15e-1` differ in their digits.

A decimal keeps the digits that fit 64 bits.  Digits of the whole part that do not fit are replaced
by zeros, that is by a greater exponent, and digits behind the point that do not fit are dropped.

## Main Definitions

* `Decimal` — a sign, digits and the power of ten they count.
* `Decimal.append` — a number with as many digits behind it as fit 64 bits.
* `Decimal.ofDigits` — the decimal that is written by digits in front of a point and behind it.
-/

namespace EventSourcing

/-- How many numbers fit 64 bits. -/
def Decimal.room : Nat := 18446744073709551616

/-- The number `± digits * 10 ^ exponent`. -/
structure Decimal where
  negative : Bool
  digits : Nat
  exponent : Int
  digits_lt : digits < Decimal.room := by decide
  deriving Repr, DecidableEq

namespace Decimal

instance : Inhabited Decimal := ⟨{ negative := false, digits := 0, exponent := 0 }⟩

/-- Appends digits as long as the number fits 64 bits.  The first digit that does not fit is left
over with all that follow it. -/
def append : (n : Nat) → List Nat → Nat × List Nat
  | n, [] => (n, [])
  | n, d :: ds => if n * 10 + d < room then append (n * 10 + d) ds else (n, d :: ds)

/-- The result fits 64 bits. -/
theorem append_lt {n : Nat} (h : n < room) (ds : List Nat) : (append n ds).1 < room := by
  induction ds generalizing n with
  | nil => exact h
  | cons d ds ih =>
    rw [append]
    split
    · rename_i fits
      exact ih fits
    · exact h

/-- Digits are left over at the end only. -/
theorem append_suffix (n : Nat) (ds : List Nat) : (append n ds).2 <:+ ds := by
  induction ds generalizing n with
  | nil => exact List.suffix_rfl
  | cons d ds ih =>
    rw [append]
    split
    · exact (ih _).trans (List.suffix_cons d ds)
    · exact List.suffix_rfl

/-- The decimal that is written by the digits `whole` in front of a point and `places` behind it,
both times a power of ten.  Digits behind the point take the room that the whole part leaves, also
if a digit of the whole part was too great for it. -/
def ofDigits (negative : Bool) (whole places : List Nat) (exponent : Int) : Decimal :=
  let front := append 0 whole
  let all := append front.1 places
  { negative
    digits := all.1
    exponent := exponent + front.2.length + all.2.length - places.length
    digits_lt := append_lt (append_lt (by decide) whole) places }

example : (ofDigits false [1, 2] [5] 3).digits = 125 ∧ (ofDigits false [1, 2] [5] 3).exponent = 2 :=
  ⟨rfl, rfl⟩

end Decimal
end EventSourcing
