/-!
# The calendar

Days are numbered from the first of January 1970 in the Gregorian calendar, carried back to all
earlier years; year zero precedes year one.  This file defines:

* `isLeapYear`, `yearStart`, `monthLengths`: the shape of the calendar;
* `Day`: a year, a month and a day of the month;
* `Day.IsValid`: being a day of the calendar within the supported years;
* `Day.number` and `Day.ofNumber`: the day number of a day, and back.

The main statement is that the year found for a day number is the one that contains it.
-/

namespace Conform

/-- Every fourth year is a leap year, save those divisible by 100 but not by 400. -/
def isLeapYear (year : Int) : Bool := year % 4 == 0 && (year % 100 != 0 || year % 400 == 0)

/-- The number of days from the start of year zero to the start of a year. -/
def yearStart (year : Int) : Int :=
  365 * year + (year + 3) / 4 - (year + 99) / 100 + (year + 399) / 400

def yearLength (year : Int) : Int := if isLeapYear year then 366 else 365

theorem yearStart_succ (year : Int) : yearStart (year + 1) = yearStart year + yearLength year := by
  unfold yearStart yearLength isLeapYear
  by_cases h4 : year % 4 = 0 <;> by_cases h100 : year % 100 = 0 <;>
    by_cases h400 : year % 400 = 0 <;> simp [h4, h100, h400] <;> omega

/-- The lengths of the months, January first. -/
def monthLengths (leap : Bool) : List Nat :=
  [31, if leap then 29 else 28, 31, 30, 31, 30, 31, 31, 30, 31, 30, 31]

/-- The number of days from the start of year zero to the start of 1970. -/
def epochStart : Int := 719528

/-- A day, by year, month and day of the month. -/
structure Day where
  year : Int
  month : Nat
  day : Nat
  deriving DecidableEq, Repr

namespace Day

def firstYear : Int := -262143

def lastYear : Int := 262142

/-- A day that the calendar has, in a supported year. -/
def IsValid (d : Day) : Prop :=
  firstYear ≤ d.year ∧ d.year ≤ lastYear ∧ 1 ≤ d.month ∧ d.month ≤ 12 ∧ 1 ≤ d.day ∧
    d.day ≤ (monthLengths (isLeapYear d.year)).getD (d.month - 1) 0

instance (d : Day) : Decidable d.IsValid :=
  inferInstanceAs (Decidable (_ ∧ _ ∧ _ ∧ _ ∧ _ ∧ _))

/-- The day number, counted from the first of January 1970. -/
def number (d : Day) : Int :=
  yearStart d.year - epochStart +
    (((monthLengths (isLeapYear d.year)).take (d.month - 1)).foldr (· + ·) 0 + (d.day - 1) : Nat)

/-- The year that contains the day `n` days after the start of year zero. -/
def yearOf (n : Int) : Int :=
  let guess := n * 400 / 146097
  if n < yearStart guess then guess - 1
  else if yearStart (guess + 1) ≤ n then guess + 1
  else guess

theorem yearStart_yearOf_le (n : Int) : yearStart (yearOf n) ≤ n := by
  unfold yearOf
  simp only
  split
  · unfold yearStart at *
    omega
  · split <;> omega

theorem lt_yearStart_yearOf_succ (n : Int) : n < yearStart (yearOf n + 1) := by
  unfold yearOf
  simp only
  split
  · rename_i h
    rwa [show n * 400 / 146097 - 1 + 1 = n * 400 / 146097 by omega]
  · split
    · unfold yearStart at *
      omega
    · omega

/-- The month and the day of the month of the `n`-th day, given the lengths of the months from
`month` on. -/
def monthDay : List Nat → (month n : Nat) → Nat × Nat
  | [], month, n => (month, n + 1)
  | length :: rest, month, n =>
    if n < length then (month, n + 1) else monthDay rest (month + 1) (n - length)

def ofNumber (n : Int) : Day :=
  let year := yearOf (n + epochStart)
  let (month, day) :=
    monthDay (monthLengths (isLeapYear year)) 1 (n + epochStart - yearStart year).toNat
  ⟨year, month, day⟩

end Day

end Conform
