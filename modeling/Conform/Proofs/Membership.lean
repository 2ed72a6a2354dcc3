import Conform.Field.Facets
import Conform.Proofs.Numbers

/-!
# Membership among allowed numbers

A number is compared with allowed ones after both have been rounded to floats.  What is allowed
exactly is always found, and no two numbers below `2 ^ 53` are ever taken for each other; from there
on numbers that round to one float are.  This file defines:

* `Json.Number.IsLarge`: a number from which on floats do not hold every integer.

The main statement is `isAllowed_number_iff`, and `exists_isAllowed_unequal` is a number that is
accepted in the place of its neighbour.
-/

namespace Conform

namespace Json.Number

/-! ## Rounded values -/

/-- From this magnitude on floats do not hold every integer. -/
def IsLarge (a : Number) : Prop := 2 ^ 53 * Binary64.unitsPerOne ≤ a.exactUnits.natAbs

/-- A number that is not large is read without rounding. -/
theorem signedUnits_of_not_isLarge {a : Number} (h : ¬ a.IsLarge) :
    a.toBinary64.signedUnits = a.exactUnits := by
  cases a with
  | float x => rfl
  | integer n inRange =>
      have hsmall : n.natAbs < 2 ^ 53 := by
        unfold IsLarge at h
        simp only [exactUnits, Int.natAbs_mul, Int.natAbs_natCast] at h
        exact Nat.lt_of_mul_lt_mul_right (Nat.not_le.1 h)
      exact Binary64.signedUnits_ofInt (natAbs_le_of_inIntegerRange inRange)
        (Binary64.precise_mul_unitsPerOne hsmall)

/-- Rounding keeps a large number large. -/
theorem IsLarge.le_units {a : Number} (h : a.IsLarge) :
    2 ^ 53 * Binary64.unitsPerOne ≤ a.toBinary64.units := by
  cases a with
  | float x => exact Nat.le_trans h (Nat.le_of_eq x.natAbs_signedUnits)
  | integer n inRange =>
      have hlarge : 2 ^ 53 ≤ n.natAbs := by
        unfold IsLarge at h
        simp only [exactUnits, Int.natAbs_mul, Int.natAbs_natCast] at h
        exact Nat.le_of_mul_le_mul_right h Binary64.unitsPerOne_pos
      exact Binary64.two_pow_le_nearestUnits_of_le hlarge

/-- Numbers that are read as one value are large together. -/
theorem IsLarge.of_sameValue {a b : Number} (h : a.IsLarge) (hsame : a.sameValue b = true) :
    b.IsLarge := by
  by_contra hsmall
  have hvalue : a.toBinary64.signedUnits = b.exactUnits :=
    (Binary64.sameValue_iff.1 hsame).trans (signedUnits_of_not_isLarge hsmall)
  apply hsmall
  rw [IsLarge, ← hvalue, Binary64.natAbs_signedUnits]
  exact h.le_units

/-- Numbers of one value are read as one value. -/
theorem sameValue_of_exactUnits {a b : Number} (h : a.exactUnits = b.exactUnits) :
    a.sameValue b = true := by
  apply Binary64.sameValue_iff.2
  cases a with
  | float x => exact (signedUnits_toBinary64 h.symm).symm
  | integer m hm =>
      cases b with
      | float y => exact signedUnits_toBinary64 h
      | integer n hn =>
          have hunit : (Binary64.unitsPerOne : Int) ≠ 0 := by
            exact_mod_cast Nat.ne_of_gt Binary64.unitsPerOne_pos
          obtain rfl : m = n := Int.eq_of_mul_eq_mul_right hunit h
          rfl

/-- Two numbers are read as one value when they have one value, or when both are large and rounded
to one float. -/
theorem sameValue_eq_true_iff {a b : Number} :
    a.sameValue b = true ↔
      a.exactUnits = b.exactUnits ∨ a.IsLarge ∧ b.IsLarge ∧ a.sameValue b = true := by
  constructor
  · intro hsame
    by_cases hlarge : a.IsLarge
    · exact Or.inr ⟨hlarge, hlarge.of_sameValue hsame, hsame⟩
    · left
      have hback : b.sameValue a = true :=
        Binary64.sameValue_iff.2 (Binary64.sameValue_iff.1 hsame).symm
      have hsmall : ¬ b.IsLarge := fun hb => hlarge (hb.of_sameValue hback)
      calc
        a.exactUnits = a.toBinary64.signedUnits := (signedUnits_of_not_isLarge hlarge).symm
        _ = b.toBinary64.signedUnits := Binary64.sameValue_iff.1 hsame
        _ = b.exactUnits := signedUnits_of_not_isLarge hsmall
  · rintro (hexact | ⟨-, -, hsame⟩)
    · exact sameValue_of_exactUnits hexact
    · exact hsame

end Json.Number

/-! ## Allowed values -/

/-- A number is found among allowed values by the numbers that are listed there. -/
theorem isAllowed_number {values : List Json} {v : Json.Number} :
    isAllowed values (.number v) = true ↔
      ∃ a, Json.number a ∈ values ∧ a.sameValue v = true := by
  unfold isAllowed
  rw [List.any_eq_true]
  constructor
  · rintro ⟨allowed, hmem, hsame⟩
    cases allowed with
    | number a => exact ⟨a, hmem, hsame⟩
    | null | bool _ | string _ | array _ | object _ => simp [Json.same] at hsame
  · rintro ⟨a, hmem, hsame⟩
    exact ⟨.number a, hmem, hsame⟩

/-- A number is allowed exactly when a number of its value is listed, in either form, or when a
large one is listed that rounds to the same float. -/
theorem isAllowed_number_iff (values : List Json) (v : Json.Number) :
    isAllowed values (.number v) = true ↔
      ∃ a, Json.number a ∈ values ∧
        (a.exactUnits = v.exactUnits ∨ a.IsLarge ∧ v.IsLarge ∧ a.sameValue v = true) := by
  rw [isAllowed_number]
  constructor
  · rintro ⟨a, hmem, hsame⟩
    exact ⟨a, hmem, Json.Number.sameValue_eq_true_iff.1 hsame⟩
  · rintro ⟨a, hmem, hcase⟩
    exact ⟨a, hmem, Json.Number.sameValue_eq_true_iff.2 hcase⟩

/-- The integer `2 ^ 53` is accepted where only its neighbour is allowed. -/
theorem exists_isAllowed_unequal :
    ¬ ∀ (values : List Json) (n : Int) (h : Json.InIntegerRange n),
      isAllowed values (.number (.integer n h)) = true ↔
        ∃ a, Json.number a ∈ values ∧ a.exactUnits = (Json.Number.integer n h).exactUnits := by
  intro hclaim
  have haccepted : isAllowed [.number (.integer (2 ^ 53 + 1) (by decide))]
      (.number (.integer (2 ^ 53) (by decide))) = true := by decide +kernel
  obtain ⟨a, hmem, hexact⟩ := (hclaim _ _ _).1 haccepted
  obtain rfl : a = .integer (2 ^ 53 + 1) (by decide) := by simpa using hmem
  have hunit : (Binary64.unitsPerOne : Int) ≠ 0 := by
    exact_mod_cast Nat.ne_of_gt Binary64.unitsPerOne_pos
  exact absurd (Int.eq_of_mul_eq_mul_right hunit hexact) (by decide)

end Conform
