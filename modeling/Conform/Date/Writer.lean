import Conform.Date.Instant

/-!
# Writing dates

The canonical form of an instant is a timestamp in universal time with three places of seconds,
the rest of the fraction cut off: `2020-02-29T23:59:60.500Z`.  This file defines:

* `padded`: a number with leading zeros up to a width;
* `yearText`: four digits, or a sign and at least four digits outside of the years 0 to 9999;
* `Instant.write`: the canonical form.
-/

namespace Conform

namespace Instant

/-- The decimal digits of a number with leading zeros up to a width. -/
def padded (width n : Nat) : List Char :=
  let digits := Nat.toDigits 10 n
  List.replicate (width - digits.length) '0' ++ digits

/-- Years 0 to 9999 have four digits, all others a sign and at least four digits. -/
def yearText (year : Int) : List Char :=
  if 0 ≤ year ∧ year ≤ 9999 then padded 4 year.toNat
  else (if year < 0 then '-' else '+') :: padded 4 year.natAbs

def writeChars (t : Instant) : List Char :=
  let d := Day.ofNumber (t.seconds / 86400)
  let ofDay := (t.seconds % 86400).toNat
  let leap := t.nanos / 10 ^ 9
  let millis := t.nanos % 10 ^ 9 / 10 ^ 6
  yearText d.year ++ '-' :: padded 2 d.month ++ '-' :: padded 2 d.day ++
    'T' :: padded 2 (ofDay / 3600) ++ ':' :: padded 2 (ofDay / 60 % 60) ++
    ':' :: padded 2 (ofDay % 60 + leap) ++ '.' :: padded 3 millis ++ ['Z']

def write (t : Instant) : String := String.ofList t.writeChars

end Instant

end Conform
