import Conform.Json.Basic
import Conform.Proofs.Numbers
import Mathlib.Algebra.Order.Field.Rat
import Mathlib.Data.Rat.Cast.Order

/-!
# Floats as rational numbers

A float is the rational number of its units, and the number that is written for it is the same
rational number in another form.  This file defines:

* `Binary64.value`: the rational number that a float is;
* `Json.Number.HasIntegerForm`: a number that is written as an integer.

The main statement is `Json.Number.ofBinary64_exact`.
-/

namespace Conform

namespace Binary64

/-! ## Values -/

/-- The rational number that a float is. -/
def value (x : Binary64) : ℚ := x.signedUnits / unitsPerOne

theorem unitsPerOne_cast_pos : (0 : ℚ) < unitsPerOne := Nat.cast_pos.2 unitsPerOne_pos

theorem value_eq_iff {x y : Binary64} : x.value = y.value ↔ x.signedUnits = y.signedUnits := by
  rw [value, value, div_left_inj' unitsPerOne_cast_pos.ne', Int.cast_inj]

theorem value_eq_intCast_iff {x : Binary64} {n : Int} :
    x.value = n ↔ x.signedUnits = n * unitsPerOne := by
  rw [value, div_eq_iff unitsPerOne_cast_pos.ne']
  exact_mod_cast Iff.rfl

/-- Floats are ordered as the numbers that they are. -/
theorem le_iff_value_le {x y : Binary64} : x ≤ y ↔ x.value ≤ y.value := by
  rw [value, value, div_le_div_iff_of_pos_right unitsPerOne_cast_pos, Int.cast_le, le_iff]

theorem lt_iff_value_lt {x y : Binary64} : x < y ↔ x.value < y.value := by
  rw [value, value, div_lt_div_iff_of_pos_right unitsPerOne_cast_pos, Int.cast_lt]
  exact Iff.rfl

/-- The integral part of a whole number is its value. -/
theorem value_eq_toInt {x : Binary64} (h : x.isIntegral = true) : x.value = x.toInt :=
  value_eq_intCast_iff.2 (toInt_mul_unitsPerOne h).symm

theorem isIntegral_iff {x : Binary64} : x.isIntegral = true ↔ ∃ n : Int, x.value = n := by
  constructor
  · intro h
    exact ⟨x.toInt, value_eq_toInt h⟩
  · rintro ⟨n, hn⟩
    exact isIntegral_of_signedUnits (value_eq_intCast_iff.1 hn)

/-- Only the two zeros are different floats of one value. -/
theorem eq_of_value_eq {x y : Binary64} (hzero : x.isZero = false) (h : y.value = x.value) :
    y = x := by
  have hsigned := value_eq_iff.1 h
  have hunits : y.units = x.units := by
    rw [← natAbs_signedUnits, ← natAbs_signedUnits, hsigned]
  have hpos : x.units ≠ 0 := by simpa [isZero] using hzero
  have hnegative : y.negative = x.negative := by
    unfold signedUnits at hsigned
    rw [hunits] at hsigned
    -- A magnitude that is not zero differs from its opposite.
    cases hy : y.negative <;> cases hx : x.negative <;> simp [hy, hx] at hsigned ⊢ <;> omega
  cases x
  cases y
  cases hunits
  cases hnegative
  rfl

end Binary64

namespace Json.Number

/-! ## Forms -/

/-- A number that is written as an integer. -/
def HasIntegerForm : Number → Prop
  | integer _ _ => True
  | float _ => False

theorem hasIntegerForm_ofBinary64_iff {x : Binary64} :
    (ofBinary64 x).HasIntegerForm ↔ FitsInteger x := by
  unfold ofBinary64
  split
  · next hfits => simp [HasIntegerForm, hfits]
  · next hfits => simp [HasIntegerForm, hfits]

theorem fitsInteger_iff {x : Binary64} :
    FitsInteger x ↔ (∃ n : Int, x.value = n) ∧ -2 ^ 63 ≤ x.value ∧ x.value < 2 ^ 63 := by
  have hlow : (-2 ^ 63 : ℚ) = ((-2 ^ 63 : Int) : ℚ) := by norm_num
  have hhigh : (2 ^ 63 : ℚ) = ((2 ^ 63 : Int) : ℚ) := by norm_num
  rw [FitsInteger, Binary64.isIntegral_iff]
  refine and_congr_right fun hwhole => ?_
  rw [Binary64.value_eq_toInt (Binary64.isIntegral_iff.2 hwhole), hlow, hhigh, Int.cast_le,
    Int.cast_lt]

/-- The floats nearest to the least and the greatest signed 64-bit integer delimit the whole numbers
that are written as integers: the greatest one is no float, and rounds up to `2 ^ 63`. -/
theorem fitsInteger_iff_between {x : Binary64} :
    FitsInteger x ↔ x.isIntegral = true ∧ Binary64.ofInt (-2 ^ 63) (by decide) ≤ x ∧
      x < Binary64.ofInt (2 ^ 63 - 1) (by decide) := by
  have hleast : (Binary64.ofInt (-2 ^ 63) (by decide)).value = ((-2 ^ 63 : Int) : ℚ) :=
    Binary64.value_eq_intCast_iff.2 (by decide +kernel)
  have hgreatest : (Binary64.ofInt (2 ^ 63 - 1) (by decide)).value = ((2 ^ 63 : Int) : ℚ) :=
    Binary64.value_eq_intCast_iff.2 (by decide +kernel)
  rw [fitsInteger_iff, Binary64.isIntegral_iff, Binary64.le_iff_value_le, Binary64.lt_iff_value_lt,
    hleast, hgreatest]
  norm_cast

/-- The number that is written for a float has the value of the float, and is read as the float
itself unless that is a zero.  It is written as an integer exactly when it is a whole number from
`-2 ^ 63` up to but excluding `2 ^ 63`, which is what the floats nearest to the ends of the signed
64-bit integers delimit, and the integer is then the value. -/
theorem ofBinary64_exact (x : Binary64) :
    (∃ y, (Json.number (ofBinary64 x)).binary64? = some y ∧ y.value = x.value ∧
        (x.isZero = false → y = x)) ∧
      ((ofBinary64 x).HasIntegerForm ↔
        (∃ n : Int, x.value = n) ∧ -2 ^ 63 ≤ x.value ∧ x.value < 2 ^ 63) ∧
      ((ofBinary64 x).HasIntegerForm ↔
        x.isIntegral = true ∧ Binary64.ofInt (-2 ^ 63) (by decide) ≤ x ∧
          x < Binary64.ofInt (2 ^ 63 - 1) (by decide)) ∧
      ∀ n h, ofBinary64 x = integer n h → x.value = n := by
  have hvalue : (ofBinary64 x).toBinary64.value = x.value :=
    Binary64.value_eq_iff.2 (signedUnits_ofBinary64 x)
  refine ⟨⟨_, rfl, hvalue, fun hzero => Binary64.eq_of_value_eq hzero hvalue⟩, ?_, ?_, ?_⟩
  · rw [hasIntegerForm_ofBinary64_iff, fitsInteger_iff]
  · rw [hasIntegerForm_ofBinary64_iff, fitsInteger_iff_between]
  · intro n h hinteger
    have hexact := exactUnits_ofBinary64 x
    rw [hinteger] at hexact
    exact Binary64.value_eq_intCast_iff.2 hexact.symm

/-- The greatest signed 64-bit integer is past the end once it is a float. -/
example : ofBinary64 (.ofInt (2 ^ 63 - 1) (by decide)) = .float (.ofInt (2 ^ 63) (by decide)) := by
  decide +kernel

end Json.Number

end Conform
