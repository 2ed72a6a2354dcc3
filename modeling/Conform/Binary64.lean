import Conform.Binary64.Rounding

/-!
# Finite binary floating-point numbers

A finite double-precision number is a sign and a magnitude counted in units of `2 ^ -1074`.  With
that reading comparison, integrality and rounding are exact integer arithmetic.  This file defines:

* `Binary64`: the numbers, with positive and negative zero apart;
* `round?`, `ofNat?`, `ofInt`: nearest numbers of quotients and of integers;
* `signedUnits`, with `<` and `sameValue` read off it: zeros of both signs are the same value;
* `isIntegral` and `toInt`;
* `mul?` and `div?`: correctly rounded product and quotient.
-/

namespace Conform

open Binary64 in
/-- A finite number: a sign and a whole number of units below the limit, at most 53 bits long. -/
structure Binary64 where
  negative : Bool
  units : Nat
  precise : Precise units
  bounded : units < limit
  deriving DecidableEq

namespace Binary64

/-! ## Building -/

def zero (negative : Bool) : Binary64 :=
  ⟨negative, 0, precise_of_lt (by decide), limit_pos⟩

instance : Inhabited Binary64 := ⟨zero false⟩

/-- The number nearest to `num / den` units, or `none` when that is too large. -/
def round? (negative : Bool) (num den : Nat) : Option Binary64 :=
  if h : nearestUnits num den < limit then
    some ⟨negative, nearestUnits num den, nearestUnits_precise num den, h⟩
  else none

/-- The number nearest to `num / den`, or `none` when that is too large. -/
def ofRatio? (negative : Bool) (num den : Nat) : Option Binary64 :=
  round? negative (num * unitsPerOne) den

theorem nearestUnits_lt_limit {n : Nat} (h : n ≤ 2 ^ 64) :
    nearestUnits (n * unitsPerOne) 1 < limit := by
  refine Nat.lt_of_le_of_lt (nearestUnits_le _ _) ?_
  rw [Nat.div_one]
  have : n * unitsPerOne ≤ 2 ^ 64 * unitsPerOne := Nat.mul_le_mul_right _ h
  exact Nat.lt_of_le_of_lt (Nat.succ_le_succ (Nat.mul_le_mul_left 2 this)) (by decide +kernel)

/-- The number nearest to an integer of at most 64 bits. -/
def ofInt (n : Int) (h : n.natAbs ≤ 2 ^ 64) : Binary64 :=
  ⟨decide (n < 0), nearestUnits (n.natAbs * unitsPerOne) 1, nearestUnits_precise _ _,
    nearestUnits_lt_limit h⟩

/-! ## Value and order -/

def signedUnits (x : Binary64) : Int := if x.negative then -(x.units : Int) else x.units

instance : LT Binary64 := ⟨fun x y => x.signedUnits < y.signedUnits⟩

instance (x y : Binary64) : Decidable (x < y) := inferInstanceAs (Decidable (x.signedUnits < y.signedUnits))

instance : LE Binary64 := ⟨fun x y => x.signedUnits ≤ y.signedUnits⟩

instance (x y : Binary64) : Decidable (x ≤ y) := inferInstanceAs (Decidable (x.signedUnits ≤ y.signedUnits))

/-- Numerical equality: the two zeros are the same value. -/
def sameValue (x y : Binary64) : Bool := x.signedUnits == y.signedUnits

/-- Neither sign of zero differs from zero. -/
def isZero (x : Binary64) : Bool := x.units == 0

def isIntegral (x : Binary64) : Bool := x.units % unitsPerOne == 0

/-- The integral part, toward zero. -/
def toInt (x : Binary64) : Int := Int.tdiv x.signedUnits unitsPerOne

/-! ## Arithmetic -/

/-- The product rounded to the nearest number, or `none` when that is too large. -/
def mul? (x y : Binary64) : Option Binary64 :=
  round? (x.negative != y.negative) (x.units * y.units) unitsPerOne

/-- The quotient rounded to the nearest number, or `none` when that is too large or `y` is zero. -/
def div? (x y : Binary64) : Option Binary64 :=
  if y.isZero then none
  else round? (x.negative != y.negative) (x.units * unitsPerOne) y.units

/-! ## First laws -/

theorem sameValue_iff {x y : Binary64} : x.sameValue y = true ↔ x.signedUnits = y.signedUnits := by
  simp [sameValue]

end Binary64

end Conform
