import EventSourcing.Decimal.Double

/-!
# The fewest digits that read back

The reals that round to a double form an interval, which reaches halfway to the neighbours and
holds its ends if the significand is even.  A double is written by the fewest decimal digits that
lie in its interval, and of two such numbers by the nearer one.

The search takes the decimal grids from the coarsest on.  If any point of a grid lies in the
interval then so does one of the two that enclose the double, so that only these are tested.

## Main Definitions

* `Double.readsBack` — whether a decimal lies in the interval of a double.
* `Double.onGrid?` — the nearer of the two enclosing points of a grid that read back.
* `Double.shortest` — the digits of a double, without zeros at the end.
-/

namespace EventSourcing

/-- Compares `a * 10 ^ i` with `n * 2 ^ j`. -/
def compareScaled (a : Nat) (i : Int) (n : Nat) (j : Int) : Ordering :=
  compare (a * Nat.pow 10 i.toNat * Nat.pow 2 (-j).toNat)
    (n * Nat.pow 2 j.toNat * Nat.pow 10 (-i).toNat)

/-- Moves zeros at the end of the digits into the exponent. -/
def stripZeros (digits : Nat) (exponent : Int) : Nat × Int :=
  if h : digits ≠ 0 ∧ digits % 10 = 0 then stripZeros (digits / 10) (exponent + 1)
  else (digits, exponent)
termination_by digits
decreasing_by exact Nat.div_lt_self (by omega) (by omega)

namespace Double

/-- The double below a power of two is only half as far away as the one above. -/
def narrowBelow (x : Double) : Bool := x.significand = leastNormal && minExponent < x.exponent

/-- Whether `digits * 10 ^ exponent` lies among the reals that round to the double. -/
def readsBack (x : Double) (digits : Nat) (exponent : Int) : Bool :=
  let low := if x.narrowBelow then 4 * x.significand - 1 else 4 * x.significand - 2
  let high := 4 * x.significand + 2
  let ends := x.significand % 2 = 0
  let toLow := compareScaled digits exponent low (x.exponent - 2)
  let toHigh := compareScaled digits exponent high (x.exponent - 2)
  (toLow == .gt || (ends && toLow == .eq)) && (toHigh == .lt || (ends && toHigh == .eq))

/-- How many digits a number has. -/
def digitCount (n : Nat) : Nat := (Nat.toDigits 10 n).length

/-- The exponent of the least power of ten beyond a magnitude that is not zero. -/
def places (x : Double) : Int :=
  let (num, den) := x.ratio
  if den ≤ num then digitCount (num / den) else 1 - (digitCount (den / num) : Int)

/-- Of the two multiples of `10 ^ exponent` that enclose the double the one that reads back, the
nearer one if both do, and the even one if they are equally near. -/
def onGrid? (x : Double) (exponent : Int) : Option (Nat × Int) :=
  let num := x.ratio.1 * Nat.pow 10 (-exponent).toNat
  let den := x.ratio.2 * Nat.pow 10 exponent.toNat
  let below := num / den
  let nearer :=
    match compare (2 * num) ((2 * below + 1) * den) with
    | .lt => below
    | .gt => below + 1
    | .eq => below + below % 2
  match x.readsBack below exponent, x.readsBack (below + 1) exponent with
  | true, true => some (nearer, exponent)
  | true, false => some (below, exponent)
  | false, true => some (below + 1, exponent)
  | false, false => none

/-- All digits of the magnitude. -/
def exact (x : Double) : Nat × Int :=
  (x.ratio.1 * Nat.pow 5 (-x.exponent).toNat, min x.exponent 0)

/-- The fewest digits that read back, at most seventeen, and the power of ten they count. -/
def shortest (x : Double) : Nat × Int :=
  if x.significand = 0 then (0, 0)
  else
    let found := ((List.range 17).findSome? fun (n : Nat) =>
      x.onGrid? (x.places - 1 - n)).getD x.exact
    stripZeros found.1 found.2

example : (Double.mk (3 * 2 ^ 51) (-52)).shortest = (15, -1) := by decide +kernel
example : (Double.mk 1 (-1074)).shortest = (5, -324) := by decide +kernel
example : (Double.mk (2 ^ 52) (-77)).shortest = (29802322387695312, -24) := by decide +kernel

end Double
end EventSourcing
