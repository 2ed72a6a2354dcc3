/-!
# Sets of code points as ranges

A set is a list of closed ranges.  Its written form is the ranges in hexadecimal, a lone code point
as itself and a longer range as two ends joined by a hyphen, separated by blanks.  This file defines:

* `Ranges` and `Ranges.contains`;
* `Ranges.ofText`: the set of a written form;
* `Ranges.complement`, `Ranges.difference`, `Ranges.intersection`: set operations, whose results are
  disjoint ranges in order with gaps between them.

The union of two sets is their concatenation.
-/

namespace Conform

abbrev Ranges := List (Nat × Nat)

namespace Ranges

/-- Whether a code point lies in one of the ranges. -/
def contains (ranges : Ranges) (n : Nat) : Bool :=
  ranges.any fun (first, last) => first ≤ n && n ≤ last

/-- The value of an upper-case hexadecimal digit; other characters count as zero. -/
def digitValue (c : Char) : Nat :=
  if '0' ≤ c ∧ c ≤ '9' then c.toNat - '0'.toNat
  else if 'A' ≤ c ∧ c ≤ 'F' then c.toNat - 'A'.toNat + 10
  else 0

/-- Reads ranges from a written form: `first` is the left end of a range whose right end is being
read, `value` the number gathered so far, and `reading` says whether it has a digit. -/
def ofChars : List Char → (first : Option Nat) → (value : Nat) → (reading : Bool) → Ranges
  | [], first, value, reading => if reading then [(first.getD value, value)] else []
  | c :: rest, first, value, reading =>
    if c = ' ' ∨ c = '\n' then
      if reading then (first.getD value, value) :: ofChars rest none 0 false
      else ofChars rest first value false
    else if c = '-' then ofChars rest (some value) 0 false
    else ofChars rest first (value * 16 + digitValue c) true

def ofText (text : String) : Ranges := ofChars text.toList none 0 false

/-- The ranges of lone code points. -/
def ofPoints (points : List Nat) : Ranges := points.map fun n => (n, n)

/-! ## Set operations -/

def lastCodePoint : Nat := 0x10FFFF

/-- What lies from `next` on outside of ranges that are in order. -/
def gaps : (next : Nat) → Ranges → Ranges
  | next, [] => if next ≤ lastCodePoint then [(next, lastCodePoint)] else []
  | next, (first, last) :: rest =>
    let stop := min first (lastCodePoint + 1)
    if next < stop then (next, stop - 1) :: gaps (max next (last + 1)) rest
    else gaps (max next (last + 1)) rest

def complement (ranges : Ranges) : Ranges :=
  gaps 0 (ranges.mergeSort fun a b => a.1 ≤ b.1)

/-- What lies in some of the first ranges and in none of the second. -/
def difference (a b : Ranges) : Ranges := complement (complement a ++ b)

def intersection (a b : Ranges) : Ranges := complement (complement a ++ complement b)

end Ranges

end Conform
