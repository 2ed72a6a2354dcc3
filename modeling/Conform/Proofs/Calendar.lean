import Conform.Date.Calendar
import Mathlib.Algebra.GroupWithZero.Nat
import Mathlib.Order.Basic

/-!
# Days and their numbers

Numbering the days of the calendar and finding the day of a number undo each other.  This file
proves:

* `Day.number_ofNumber`: every number is that of the day found for it;
* `Day.ofNumber_number`: every valid day is found for its number;
* `Day.isValid_ofNumber_iff`: the day of a number is valid when it lies in the supported years.
-/

namespace Conform

theorem yearStart_mono {year later : Int} (h : year ≤ later) :
    yearStart year ≤ yearStart later := by
  unfold yearStart
  omega

theorem sum_monthLengths (year : Int) :
    ((monthLengths (isLeapYear year)).sum : Int) = yearLength year := by
  unfold yearLength
  cases isLeapYear year <;> rfl

theorem monthLength_le (leap : Bool) (i : Nat) : (monthLengths leap).getD i 0 ≤ 31 := by
  have hall : ∀ length ∈ monthLengths leap, length ≤ 31 := by cases leap <;> decide
  rw [List.getD_eq_getElem?_getD]
  cases hlength : (monthLengths leap)[i]? with
  | none => exact Nat.zero_le 31
  | some length => exact hall length (List.mem_of_getElem? hlength)

namespace Day

/-! ## Years -/

/-- The year of a day is the one between whose start and end the day lies. -/
theorem le_yearOf_iff {year n : Int} : year ≤ yearOf n ↔ yearStart year ≤ n := by
  constructor
  · intro h
    exact Int.le_trans (yearStart_mono h) (yearStart_yearOf_le n)
  · intro h
    by_contra hlater
    have hstart : yearStart (yearOf n + 1) ≤ yearStart year := yearStart_mono (by omega)
    have hend := lt_yearStart_yearOf_succ n
    omega

theorem yearOf_lt_iff {year n : Int} : yearOf n < year ↔ n < yearStart year := by
  rw [← Int.not_le, ← Int.not_le, le_yearOf_iff]

theorem yearOf_eq {year n : Int} (hstart : yearStart year ≤ n) (hend : n < yearStart (year + 1)) :
    yearOf n = year :=
  Int.le_antisymm (Int.le_of_lt_add_one (yearOf_lt_iff.2 hend)) (le_yearOf_iff.2 hstart)

/-! ## Months -/

/-- A day of a month is found after all the days of the months before it. -/
theorem monthDay_eq {lengths : List Nat} {i length d : Nat} (hlength : lengths[i]? = some length)
    (hd : d < length) (month : Nat) :
    monthDay lengths month ((lengths.take i).sum + d) = (month + i, d + 1) := by
  induction lengths generalizing i month with
  | nil => simp at hlength
  | cons first rest ih =>
      cases i with
      | zero =>
          obtain rfl : first = length := by simpa using hlength
          simp [monthDay, hd]
      | succ i =>
          have hrest := ih (by simpa using hlength) (month + 1)
          have hlater : ¬ first + (rest.take i).sum + d < first := by omega
          have hleft : first + (rest.take i).sum + d - first = (rest.take i).sum + d := by omega
          simp only [List.take_succ_cons, List.sum_cons, monthDay, if_neg hlater, hleft, hrest]
          congr 1
          omega

/-- Every day within months of these lengths is a day of one of them. -/
theorem exists_month {lengths : List Nat} {n : Nat} (h : n < lengths.sum) :
    ∃ i length d, lengths[i]? = some length ∧ d < length ∧ n = (lengths.take i).sum + d := by
  induction lengths generalizing n with
  | nil => simp at h
  | cons first rest ih =>
      by_cases hfirst : n < first
      · exact ⟨0, first, n, rfl, hfirst, by simp⟩
      · have hrest : n - first < rest.sum := by
          rw [List.sum_cons] at h
          omega
        obtain ⟨i, length, d, hlength, hd, hn⟩ := ih hrest
        refine ⟨i + 1, length, d, hlength, hd, ?_⟩
        rw [List.take_succ_cons, List.sum_cons]
        omega

/-- A month ends within the year. -/
theorem take_add_le_sum {lengths : List Nat} {i length : Nat}
    (hlength : lengths[i]? = some length) :
    (lengths.take i).sum + length ≤ lengths.sum := by
  induction lengths generalizing i with
  | nil => simp at hlength
  | cons first rest ih =>
      cases i with
      | zero =>
          obtain rfl : first = length := by simpa using hlength
          simp
      | succ i =>
          have hrest := ih (i := i) (by simpa using hlength)
          simp only [List.take_succ_cons, List.sum_cons]
          omega

/-! ## Days -/

/-- The number of a day, by the days of the months before it. -/
theorem number_eq (year : Int) (i d : Nat) :
    number ⟨year, i + 1, d + 1⟩ =
      yearStart year - epochStart + (((monthLengths (isLeapYear year)).take i).sum + d : Nat) := rfl

/-- The day of a number, by its place in the year. -/
theorem ofNumber_eq {year : Int} {i length d : Nat}
    (hlength : (monthLengths (isLeapYear year))[i]? = some length) (hd : d < length) :
    ofNumber (number ⟨year, i + 1, d + 1⟩) = ⟨year, i + 1, d + 1⟩ := by
  have hwithin := take_add_le_sum hlength
  have hsum := sum_monthLengths year
  have hnext := yearStart_succ year
  have hyear : yearOf (number ⟨year, i + 1, d + 1⟩ + epochStart) = year := by
    rw [number_eq]
    exact yearOf_eq (by omega) (by omega)
  have hplace : (number ⟨year, i + 1, d + 1⟩ + epochStart - yearStart year).toNat =
      ((monthLengths (isLeapYear year)).take i).sum + d := by
    rw [number_eq]
    omega
  simp only [ofNumber, hyear, hplace, monthDay_eq hlength hd, Nat.add_comm 1 i]

/-- The day found for a number is one of some month, and has that number. -/
theorem exists_ofNumber (n : Int) :
    ∃ i length d, (monthLengths (isLeapYear (yearOf (n + epochStart))))[i]? = some length ∧
      d < length ∧ ofNumber n = ⟨yearOf (n + epochStart), i + 1, d + 1⟩ ∧
      (ofNumber n).number = n := by
  have hstart := yearStart_yearOf_le (n + epochStart)
  have hend := lt_yearStart_yearOf_succ (n + epochStart)
  have hsum := sum_monthLengths (yearOf (n + epochStart))
  rw [yearStart_succ] at hend
  have hwithin : (n + epochStart - yearStart (yearOf (n + epochStart))).toNat <
      (monthLengths (isLeapYear (yearOf (n + epochStart)))).sum := by omega
  obtain ⟨i, length, d, hlength, hd, hplace⟩ := exists_month hwithin
  have hn : number ⟨yearOf (n + epochStart), i + 1, d + 1⟩ = n := by
    rw [number_eq]
    omega
  have hday := ofNumber_eq hlength hd
  rw [hn] at hday
  exact ⟨i, length, d, hlength, hd, hday, by rw [hday, hn]⟩

/-- The number of the day found for a number is that number. -/
theorem number_ofNumber (n : Int) : (ofNumber n).number = n := by
  obtain ⟨-, -, -, -, -, -, hn⟩ := exists_ofNumber n
  exact hn

/-- The day found for a number is valid when the number lies in the supported years. -/
theorem isValid_ofNumber_iff {n : Int} :
    (ofNumber n).IsValid ↔
      yearStart firstYear ≤ n + epochStart ∧ n + epochStart < yearStart (lastYear + 1) := by
  constructor
  · rintro ⟨hfirst, hlast, -⟩
    exact ⟨le_yearOf_iff.1 hfirst, yearOf_lt_iff.1 (Int.lt_add_one_of_le hlast)⟩
  · rintro ⟨hstart, hend⟩
    have hfirst := le_yearOf_iff.2 hstart
    have hlast := Int.le_of_lt_add_one (yearOf_lt_iff.2 hend)
    obtain ⟨i, length, d, hlength, hd, hday, -⟩ := exists_ofNumber n
    have hmonth : i < 12 := (List.getElem?_eq_some_iff.1 hlength).1
    rw [hday]
    refine ⟨hfirst, hlast, Nat.succ_pos i, hmonth, Nat.succ_pos d, ?_⟩
    simp only [Nat.add_sub_cancel, List.getD_eq_getElem?_getD, hlength, Option.getD_some]
    exact hd

/-- A valid day is found for its number. -/
theorem ofNumber_number {d : Day} (h : d.IsValid) : ofNumber d.number = d := by
  rcases d with ⟨year, month, day⟩
  rcases h with ⟨-, -, hmonth, hlast, hday, hlength⟩
  obtain ⟨i, rfl⟩ : ∃ i, month = i + 1 := Nat.exists_eq_add_of_le' hmonth
  obtain ⟨e, rfl⟩ : ∃ e, day = e + 1 := Nat.exists_eq_add_of_le' hday
  have hindex : i < (monthLengths (isLeapYear year)).length := hlast
  have hget := List.getElem?_eq_getElem hindex
  apply ofNumber_eq hget
  simp only [Nat.add_sub_cancel, List.getD_eq_getElem?_getD, hget, Option.getD_some] at hlength
  exact hlength

theorem month_lt {d : Day} (h : d.IsValid) : d.month < 100 := by
  obtain ⟨-, -, -, hmonth, -⟩ := h
  omega

theorem day_lt {d : Day} (h : d.IsValid) : d.day < 100 := by
  obtain ⟨-, -, -, -, -, hday⟩ := h
  exact Nat.lt_of_le_of_lt (Nat.le_trans hday (monthLength_le _ _)) (by decide)

/-- A valid day lies in its year. -/
theorem number_bounds {d : Day} (h : d.IsValid) :
    yearStart d.year ≤ d.number + epochStart ∧ d.number + epochStart < yearStart (d.year + 1) := by
  have hyear : yearOf (d.number + epochStart) = d.year := by
    exact congrArg Day.year (ofNumber_number h)
  have hstart := yearStart_yearOf_le (d.number + epochStart)
  have hend := lt_yearStart_yearOf_succ (d.number + epochStart)
  rw [hyear] at hstart hend
  exact ⟨hstart, hend⟩

end Day

end Conform
