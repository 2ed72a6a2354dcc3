import Conform.Json.Number
import Mathlib.Order.Basic

/-!
# Values of numbers

A number that is read as a float keeps its value when a float has it, and a float that is written
in integer form always does.  This file defines:

* `Json.Number.exactUnits`: the value of a number as it is written, without any rounding;

and proves:

* `Binary64.two_pow_le_nearestUnits`: rounding does not fall below a power of two;
* `Binary64.toInt_mul_unitsPerOne`: the integral part of a whole number is all of it;
* `Json.Number.signedUnits_toBinary64`: a number is read as the float that has its value;
* `Json.Number.signedUnits_ofBinary64`: the value of a float is kept by its JSON form;
* `Json.Number.ofBinary64_toBinary64_iff`: an integer that is read as a float is written as it was
  exactly when it is below `2 ^ 63` and has the value of a float.
-/

namespace Conform

namespace Binary64

/-! ## Rounding -/

/-- What is rounded to a multiple is not less than the multiple below it. -/
theorem div_le_roundHalfEven (num den : Nat) : num / den ≤ roundHalfEven num den := by
  unfold roundHalfEven
  simp only
  split
  · exact Nat.le_refl _
  · split
    · exact Nat.le_succ _
    · exact Nat.le_add_right _ _

/-- Rounding does not fall below a power of two. -/
theorem two_pow_le_nearestUnits {num den k : Nat} (h : 2 ^ k ≤ num / den) :
    2 ^ k ≤ nearestUnits num den := by
  unfold nearestUnits
  simp only
  generalize hs : (num / den).log2 - 52 = s
  have hfloor : num / den / 2 ^ s * 2 ^ s ≤ roundHalfEven num (den * 2 ^ s) * 2 ^ s := by
    rw [Nat.div_div_eq_div_mul]
    exact Nat.mul_le_mul_right _ (div_le_roundHalfEven _ _)
  refine Nat.le_trans ?_ hfloor
  -- A power of two from the last place on is a multiple of it, and a smaller one is below it.
  rcases Nat.le_total s k with hle | hle
  · obtain ⟨j, rfl⟩ := Nat.exists_eq_add_of_le hle
    rw [Nat.pow_add, Nat.mul_comm]
    refine Nat.mul_le_mul_right _ ?_
    rwa [Nat.le_div_iff_mul_le (Nat.two_pow_pos s), ← Nat.pow_add, Nat.add_comm]
  · have hne : num / den ≠ 0 := Nat.ne_of_gt (Nat.lt_of_lt_of_le (Nat.two_pow_pos k) h)
    have hplace : 2 ^ s ≤ num / den :=
      Nat.le_trans (Nat.pow_le_pow_right (by omega) (by omega)) (Nat.log2_self_le hne)
    calc
      2 ^ k ≤ 2 ^ s := Nat.pow_le_pow_right (by omega) hle
      _ = 1 * 2 ^ s := (Nat.one_mul _).symm
      _ ≤ num / den / 2 ^ s * 2 ^ s :=
        Nat.mul_le_mul_right _ ((Nat.le_div_iff_mul_le (Nat.two_pow_pos s)).2 (by omega))

/-! ## Values -/

theorem two_pow_mul_unitsPerOne (k : Nat) : 2 ^ k * unitsPerOne = 2 ^ (k + 1074) := by
  rw [unitsPerOne, Nat.pow_add]

/-- An integer of at most 53 bits is held as it is. -/
theorem precise_mul_unitsPerOne {n : Nat} (h : n < 2 ^ 53) : Precise (n * unitsPerOne) := by
  refine ⟨n, 1074, h, ?_⟩
  rw [unitsPerOne]

/-- Rounding does not take an integer below a power of two. -/
theorem two_pow_le_nearestUnits_of_le {n k : Nat} (h : 2 ^ k ≤ n) :
    2 ^ k * unitsPerOne ≤ nearestUnits (n * unitsPerOne) 1 := by
  rw [two_pow_mul_unitsPerOne]
  apply two_pow_le_nearestUnits
  rw [Nat.div_one, ← two_pow_mul_unitsPerOne]
  exact Nat.mul_le_mul_right _ h

theorem le_iff {x y : Binary64} : x ≤ y ↔ x.signedUnits ≤ y.signedUnits := Iff.rfl

theorem natAbs_signedUnits (x : Binary64) : x.signedUnits.natAbs = x.units := by
  unfold signedUnits
  split
  · rw [Int.natAbs_neg, Int.natAbs_natCast]
  · rw [Int.natAbs_natCast]

/-- Numbers of the same value are whole or not together. -/
theorem isIntegral_congr {x y : Binary64} (h : x.signedUnits = y.signedUnits) :
    x.isIntegral = y.isIntegral := by
  unfold isIntegral
  rw [← natAbs_signedUnits x, ← natAbs_signedUnits y, h]

theorem toInt_congr {x y : Binary64} (h : x.signedUnits = y.signedUnits) : x.toInt = y.toInt := by
  unfold toInt
  rw [h]

/-- The integral part of a whole number is all of it. -/
theorem toInt_mul_unitsPerOne {x : Binary64} (h : x.isIntegral = true) :
    x.toInt * unitsPerOne = x.signedUnits := by
  have hunits : x.units % unitsPerOne = 0 := by simpa [isIntegral] using h
  have hdvd : (unitsPerOne : Int) ∣ x.signedUnits := by
    rw [← Int.natAbs_dvd_natAbs, natAbs_signedUnits, Int.natAbs_natCast]
    exact Nat.dvd_of_mod_eq_zero hunits
  exact Int.tdiv_mul_cancel hdvd

theorem units_of_signedUnits {x : Binary64} {n : Int} (h : x.signedUnits = n * unitsPerOne) :
    x.units = n.natAbs * unitsPerOne := by
  rw [← natAbs_signedUnits, h, Int.natAbs_mul, Int.natAbs_natCast]

theorem isIntegral_of_signedUnits {x : Binary64} {n : Int} (h : x.signedUnits = n * unitsPerOne) :
    x.isIntegral = true := by
  simp [isIntegral, units_of_signedUnits h]

theorem toInt_of_signedUnits {x : Binary64} {n : Int} (h : x.signedUnits = n * unitsPerOne) :
    x.toInt = n := by
  have hunit : (unitsPerOne : Int) ≠ 0 := by exact_mod_cast Nat.ne_of_gt unitsPerOne_pos
  rw [toInt, h, Int.mul_tdiv_cancel n hunit]

/-- The number of an integer has its value, when no rounding is needed. -/
theorem signedUnits_ofInt {n : Int} (h : n.natAbs ≤ 2 ^ 64)
    (hprecise : Precise (n.natAbs * unitsPerOne)) :
    (ofInt n h).signedUnits = n * unitsPerOne := by
  have hunits : nearestUnits (n.natAbs * unitsPerOne) 1 = n.natAbs * unitsPerOne := by
    simpa using nearestUnits_of_precise hprecise 1 Nat.one_pos
  simp only [ofInt, signedUnits, hunits, decide_eq_true_eq, Int.natCast_mul]
  -- The sign is kept apart from the magnitude, and both are those of the integer.
  split
  · rw [← Int.neg_mul]
    congr 1
    omega
  · congr 1
    omega

end Binary64

namespace Json.Number

/-! ## Numbers of documents -/

/-- The value of a number as it is written, in units. -/
def exactUnits : Number → Int
  | integer n _ => n * Binary64.unitsPerOne
  | float x => x.signedUnits

/-- A number is read as the float that has its value, if there is one. -/
theorem signedUnits_toBinary64 {a : Number} {x : Binary64} (h : a.exactUnits = x.signedUnits) :
    a.toBinary64.signedUnits = x.signedUnits := by
  cases a with
  | float y => exact h
  | integer n inRange =>
      have hvalue : n * Binary64.unitsPerOne = x.signedUnits := h
      -- The magnitude is that of the float, so it has no more bits than the format holds.
      have hprecise : Binary64.Precise (n.natAbs * Binary64.unitsPerOne) := by
        rw [← Binary64.units_of_signedUnits hvalue.symm]
        exact x.precise
      rw [toBinary64, Binary64.signedUnits_ofInt _ hprecise, hvalue]

theorem fitsInteger_iff_of_signedUnits {x : Binary64} {n : Int}
    (h : x.signedUnits = n * Binary64.unitsPerOne) :
    FitsInteger x ↔ -2 ^ 63 ≤ n ∧ n < 2 ^ 63 := by
  rw [FitsInteger, Binary64.toInt_of_signedUnits h]
  exact and_iff_right (Binary64.isIntegral_of_signedUnits h)

/-- A float is written as a number of its value. -/
theorem exactUnits_ofBinary64 (x : Binary64) : (ofBinary64 x).exactUnits = x.signedUnits := by
  unfold ofBinary64
  split
  · next hfits => exact Binary64.toInt_mul_unitsPerOne hfits.1
  · rfl

/-- The value of a float is kept by its JSON form. -/
theorem signedUnits_ofBinary64 (x : Binary64) :
    (ofBinary64 x).toBinary64.signedUnits = x.signedUnits :=
  signedUnits_toBinary64 (exactUnits_ofBinary64 x)

/-- An integer that is read as a float is written as it was when a float has its value and it is
less than `2 ^ 63`. -/
theorem ofBinary64_toBinary64_iff {n : Int} (h : InIntegerRange n) :
    ofBinary64 (integer n h).toBinary64 = integer n h ↔
      n < 2 ^ 63 ∧ ∃ x : Binary64, x.signedUnits = n * Binary64.unitsPerOne := by
  constructor
  · intro hwritten
    refine ⟨?_, (integer n h).toBinary64, ?_⟩
    · unfold ofBinary64 at hwritten
      split at hwritten
      · next hfits =>
          have hint : (integer n h).toBinary64.toInt = n := by injection hwritten
          rw [← hint]
          exact hfits.2.2
      · cases hwritten
    · rw [← exactUnits_ofBinary64, hwritten]
      rfl
  · rintro ⟨hless, x, hx⟩
    have hexact : (integer n h).exactUnits = x.signedUnits := hx.symm
    have hvalue : (integer n h).toBinary64.signedUnits = n * Binary64.unitsPerOne :=
      (signedUnits_toBinary64 hexact).trans hx
    have hfits := (fitsInteger_iff_of_signedUnits hvalue).2 ⟨h.1, hless⟩
    unfold ofBinary64
    rw [dif_pos hfits]
    simp only [Binary64.toInt_of_signedUnits hvalue]

end Json.Number

end Conform
