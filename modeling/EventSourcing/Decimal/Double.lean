import EventSourcing.Decimal.Basic

/-!
# Doubles

The magnitude of a double is a whole number of at most 53 bits times a power of two, and all
arithmetic on it is exact arithmetic followed by one rounding to the nearest double, where a half
goes to the even neighbour.

A decimal becomes a double in three steps: its digits are rounded, the power of ten is rounded, and
the product or quotient of the two is rounded.  Powers beyond `308`
are taken in steps.  Up to `2 ^ 53` and powers up to `22` the first two steps are exact, so that the
result is the double nearest to the decimal.

## Main Definitions

* `Double`, `Double.ratio` — a magnitude, and the fraction it is.
* `roundDiv` — the whole number nearest to a quotient.
* `Double.nearest?` — the double nearest to a fraction, unless the fraction is beyond all doubles.
* `Decimal.toDouble?` — the double that a decimal is read as.
-/

namespace EventSourcing

/-- The whole number nearest to `num / den`; a half goes to the even neighbour. -/
def roundDiv (num den : Nat) : Nat :=
  let whole := num / den
  let left := 2 * (num % den)
  if left < den then whole
  else if den < left then whole + 1
  else whole + whole % 2

/-- The rounded quotient is at most half a unit away from the exact one. -/
theorem roundDiv_near (num den : Nat) (h : 0 < den) :
    2 * (roundDiv num den * den) ≤ 2 * num + den ∧
      2 * num ≤ 2 * (roundDiv num den * den) + den := by
  have split : den * (num / den) + num % den = num := Nat.div_add_mod num den
  have below : num % den < den := Nat.mod_lt _ h
  have bit : num / den % 2 = 0 ∨ num / den % 2 = 1 := by omega
  simp only [roundDiv]
  generalize num / den = whole at *
  generalize num % den = left at *
  have next : (whole + 1) * den = den * whole + den := by
    rw [Nat.add_mul, Nat.one_mul, Nat.mul_comm]
  have same : whole * den = den * whole := Nat.mul_comm ..
  generalize den * whole = product at *
  split
  · omega
  split
  · omega
  rcases bit with bit | bit
  · rw [bit, Nat.add_zero]; omega
  · rw [bit]; omega

/-- The magnitude `significand * 2 ^ exponent` of a double. -/
structure Double where
  significand : Nat
  exponent : Int
  deriving Repr, DecidableEq, Inhabited

namespace Double

/-- The least exponent of a double. -/
def minExponent : Int := -1074

/-- The greatest exponent of a double. -/
def maxExponent : Int := 971

/-- The least significand of 53 bits. -/
def leastNormal : Nat := 4503599627370496

/-- The magnitude as a numerator and a denominator. -/
def ratio (x : Double) : Nat × Nat :=
  (x.significand * Nat.pow 2 x.exponent.toNat, Nat.pow 2 (-x.exponent).toNat)

/-- The double nearest to `num / den`, or nothing if that is beyond the greatest double.  The
exponent is the least one that leaves the significand at most 53 bits. -/
def nearest? (num den : Nat) : Option Double :=
  let guess : Int := num.log2 - den.log2 - 53
  let fits : Bool :=
    num * Nat.pow 2 (-guess).toNat < den * Nat.pow 2 guess.toNat * (2 * leastNormal)
  let exponent := max minExponent (if fits then guess else guess + 1)
  let rounded := roundDiv (num * Nat.pow 2 (-exponent).toNat) (den * Nat.pow 2 exponent.toNat)
  let x : Double :=
    if rounded = 2 * leastNormal then ⟨leastNormal, exponent + 1⟩ else ⟨rounded, exponent⟩
  if x.exponent ≤ maxExponent then some x else none

/-- The product of two magnitudes. -/
def mul? (x y : Double) : Option Double :=
  nearest? (x.ratio.1 * y.ratio.1) (x.ratio.2 * y.ratio.2)

/-- The quotient of two magnitudes. -/
def div? (x y : Double) : Option Double :=
  nearest? (x.ratio.1 * y.ratio.2) (x.ratio.2 * y.ratio.1)

/-- The greatest power of ten that a double is near to. -/
def maxPower : Nat := 308

/-- The magnitude times a power of ten. -/
def raise? (x : Double) (power : Nat) : Option Double :=
  if power ≤ maxPower then do x.mul? (← nearest? (Nat.pow 10 power) 1)
  else if x.significand = 0 then some x
  else none

/-- The magnitude divided by a power of ten. -/
def lower? (x : Double) (power : Nat) : Option Double :=
  if power ≤ maxPower then do x.div? (← nearest? (Nat.pow 10 power) 1)
  else if x.significand = 0 then some x
  else do
    let y ← x.div? (← nearest? (Nat.pow 10 maxPower) 1)
    y.lower? (power - maxPower)
termination_by power
decreasing_by unfold maxPower at *; omega

end Double

/-- The magnitude that a decimal is read as, or nothing if it is beyond the greatest double. -/
def Decimal.toDouble? (d : Decimal) : Option Double := do
  let x ← Double.nearest? d.digits 1
  if 0 ≤ d.exponent then x.raise? d.exponent.toNat else x.lower? (-d.exponent).toNat

example : (Decimal.mk false 15 (-1)).toDouble? = some ⟨3 * 2 ^ 51, -52⟩ := by decide +kernel
example : (Decimal.mk false 1 400).toDouble? = none := by decide +kernel
example : ((Decimal.mk false 1 (-400)).toDouble?).map (·.significand) = some 0 := by
  decide +kernel

end EventSourcing
