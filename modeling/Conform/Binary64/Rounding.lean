/-!
# Rounding magnitudes to 53 significant bits

A magnitude is a natural number of *units*, and one is `unitsPerOne = 2 ^ 1074` of them, so every
finite double-precision magnitude is a whole number of units.  This file defines:

* `roundHalfEven`: a quotient rounded to the nearest integer, a half going to the even neighbour;
* `nearestUnits`: the nearest magnitude with at most 53 significant bits;
* `Precise`: having at most 53 significant bits.

The main statements are that `nearestUnits` is always precise, that it returns a precise magnitude
unchanged, and that it at most doubles what it rounds.
-/

-- A power is the one of the core library, also where other readings of it are imported.
attribute [instance (100000), default_instance 100000] instPowNat

namespace Conform

namespace Binary64

def unitsPerOne : Nat := 2 ^ 1074

/-- The first magnitude, in units, that is too large for the format. -/
def limit : Nat := 2 ^ 2098

theorem unitsPerOne_pos : 0 < unitsPerOne := by decide +kernel

theorem limit_pos : 0 < limit := by decide +kernel

/-! ## Rounding a quotient -/

/-- The quotient rounded to the nearest integer, a half going to the even neighbour. -/
def roundHalfEven (num den : Nat) : Nat :=
  let quotient := num / den
  let twice := 2 * (num % den)
  if twice < den then quotient
  else if den < twice then quotient + 1
  else quotient + quotient % 2

theorem roundHalfEven_le (num den : Nat) : roundHalfEven num den ≤ num / den + 1 := by
  unfold roundHalfEven
  simp only
  split
  · omega
  · split <;> omega

theorem roundHalfEven_mul_left {den : Nat} (q : Nat) (h : 0 < den) :
    roundHalfEven (q * den) den = q := by
  simp [roundHalfEven, Nat.mul_div_cancel q h, h]

/-! ## Rounding a magnitude -/

/-- At most 53 significant bits. -/
def Precise (units : Nat) : Prop := ∃ m k, m < 2 ^ 53 ∧ units = m * 2 ^ k

/-- The nearest magnitude of 53 significant bits to `num / den` units, ties going to even. -/
def nearestUnits (num den : Nat) : Nat :=
  let shift := (num / den).log2 - 52
  roundHalfEven num (den * 2 ^ shift) * 2 ^ shift

theorem precise_of_lt {units : Nat} (h : units < 2 ^ 53) : Precise units :=
  ⟨units, 0, h, by simp⟩

theorem nearestUnits_precise (num den : Nat) : Precise (nearestUnits num den) := by
  unfold nearestUnits
  simp only
  generalize hs : (num / den).log2 - 52 = s
  have hq : num / den < 2 ^ (53 + s) := by
    refine Nat.lt_of_lt_of_le Nat.lt_log2_self (Nat.pow_le_pow_right (by omega) (by omega))
  have hle : roundHalfEven num (den * 2 ^ s) ≤ 2 ^ 53 := by
    refine Nat.le_trans (roundHalfEven_le _ _) ?_
    rw [← Nat.div_div_eq_div_mul]
    exact Nat.div_lt_of_lt_mul (by rwa [← Nat.pow_add, Nat.add_comm s 53])
  rcases Nat.lt_or_eq_of_le hle with hlt | heq
  · exact ⟨_, s, hlt, rfl⟩
  · refine ⟨2 ^ 52, s + 1, by decide, ?_⟩
    rw [heq, ← Nat.pow_add, ← Nat.pow_add]
    congr 1
    omega

theorem nearestUnits_of_precise {units : Nat} (h : Precise units) (den : Nat) (hd : 0 < den) :
    nearestUnits (units * den) den = units := by
  unfold nearestUnits
  simp only [Nat.mul_div_cancel units hd]
  generalize hs : units.log2 - 52 = s
  obtain ⟨m, k, hm, rfl⟩ := h
  have hdvd : 2 ^ s ∣ m * 2 ^ k := by
    rcases Nat.eq_zero_or_pos (m * 2 ^ k) with h0 | hpos
    · simp [h0]
    · have hlog : (m * 2 ^ k).log2 < 53 + k := by
        rw [Nat.log2_lt (by omega), Nat.pow_add]
        exact Nat.mul_lt_mul_of_pos_right hm (Nat.two_pow_pos k)
      exact Nat.dvd_trans (Nat.pow_dvd_pow 2 (by omega)) (Nat.dvd_mul_left _ _)
  obtain ⟨c, hc⟩ := hdvd
  rw [hc, show 2 ^ s * c * den = c * (den * 2 ^ s) by ac_rfl,
    roundHalfEven_mul_left c (Nat.mul_pos hd (Nat.two_pow_pos s)), Nat.mul_comm]

theorem nearestUnits_le (num den : Nat) : nearestUnits num den ≤ 2 * (num / den) + 1 := by
  unfold nearestUnits
  simp only
  generalize hs : (num / den).log2 - 52 = s
  have hround := roundHalfEven_le num (den * 2 ^ s)
  rw [← Nat.div_div_eq_div_mul] at hround
  have hmul := Nat.mul_le_mul_right (2 ^ s) hround
  have hdiv : num / den / 2 ^ s * 2 ^ s ≤ num / den := Nat.div_mul_le_self _ _
  rw [Nat.add_mul, Nat.one_mul] at hmul
  rcases Nat.eq_zero_or_pos s with h0 | hpos
  · subst h0
    simp only [Nat.pow_zero, Nat.mul_one, Nat.div_one] at hmul ⊢
    omega
  · have hne : num / den ≠ 0 := by
      intro h
      rw [h] at hs
      simp at hs
      omega
    have : 2 ^ s ≤ num / den :=
      Nat.le_trans (Nat.pow_le_pow_right (by omega) (by omega)) (Nat.log2_self_le hne)
    omega

end Binary64

end Conform
