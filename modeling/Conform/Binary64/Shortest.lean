import Conform.Binary64.Decimal

/-!
# The shortest decimal text of a number

The digits written for a finite number are the fewest that read back as the same number, and of
those the nearest to it.  This file defines:

* `Tie`: which of two equally near digit strings is taken;
* `shortestDigits`: the digits and the decimal exponent of the first of them;
* `NumberLayout`: where positional notation ends and how the exponent is written;
* `text`: the written form in a layout.
-/

namespace Conform

namespace Binary64

/-! ## Choosing the digits -/

/-- Which of two equally near digit strings is taken. -/
inductive Tie where
  | even
  | up
  deriving DecidableEq, Repr

/-- A digit string as a number, with the decimal exponent of its first digit. -/
structure Digits where
  significand : Nat
  exponent : Int
  deriving DecidableEq, Repr

/-- The least `k ≤ bound` with `1 ≤ units * 10 ^ k`, searching upward from `k`. -/
def firstPlace (units : Nat) : (fuel k : Nat) → Nat
  | 0, k => k
  | fuel + 1, k => if unitsPerOne ≤ units * 10 ^ k then k else firstPlace units fuel (k + 1)

/-- The decimal exponent of the leading digit of a positive magnitude. -/
def leadingExponent (units : Nat) : Int :=
  if unitsPerOne ≤ units then ((Nat.toDigits 10 (units / unitsPerOne)).length : Int) - 1
  else -(firstPlace units 330 1 : Int)

/-- The magnitude of `units`, counted in steps of `10 ^ -places`, as a fraction. -/
def onGrid (units : Nat) (places : Int) : Nat × Nat :=
  if 0 ≤ places then (units * 10 ^ places.toNat, unitsPerOne)
  else (units, unitsPerOne * 10 ^ (-places).toNat)

/-- The grid point `c * 10 ^ -places` is read as this very magnitude. -/
def readsBack (units c : Nat) (places : Int) : Bool :=
  (if 0 ≤ places then nearestUnits (c * unitsPerOne) (10 ^ places.toNat)
   else nearestUnits (c * 10 ^ (-places).toNat * unitsPerOne) 1) == units

/-- The nearer of the two grid points around a magnitude among those that read back. -/
def gridPoint? (tie : Tie) (units : Nat) (places : Int) : Option Nat :=
  let (num, den) := onGrid units places
  let low := num / den
  let twice := 2 * (num % den)
  match readsBack units low places, readsBack units (low + 1) places with
  | true, true =>
    if twice < den then some low
    else if den < twice then some (low + 1)
    else match tie with
      | .even => some (low + low % 2)
      | .up => some (low + 1)
  | true, false => some low
  | false, true => some (low + 1)
  | false, false => none

/-- The first digit count, from `count` on, at which a grid point reads back. -/
def searchDigits (tie : Tie) (units : Nat) (exponent : Int) : (fuel count : Nat) → Digits
  | 0, count =>
    let (num, den) := onGrid units (count - 1 - exponent)
    ⟨num / den, exponent⟩
  | fuel + 1, count =>
    match gridPoint? tie units (count - 1 - exponent) with
    -- Rounding up may carry into one more digit.
    | some c => if c = 10 ^ count then ⟨1, exponent + 1⟩ else ⟨c, exponent⟩
    | none => searchDigits tie units exponent fuel (count + 1)

/-- The fewest digits that read back as a positive magnitude, and of those the nearest. -/
def shortestDigits (tie : Tie) (units : Nat) : Digits :=
  searchDigits tie units (leadingExponent units) 17 1

/-! ## Writing them -/

/-- The decisions of a number format. -/
structure NumberLayout where
  /-- Whether a number whose leading digit has this exponent is written with an exponent. -/
  scientific : Int → Bool
  /-- Which of two equally near digit strings is written. -/
  tie : Tie
  /-- Whether a whole number in positional notation ends in `.0`. -/
  wholePoint : Bool

def zeros (n : Nat) : List Char := List.replicate n '0'

/-- Digits with the point placed by the exponent; `whole` ends a number without a fraction. -/
def positional (whole : List Char) (digits : List Char) (exponent : Int) : List Char :=
  if exponent < 0 then '0' :: '.' :: (zeros (-exponent - 1).toNat ++ digits)
  else
    let count := exponent.toNat + 1
    if digits.length ≤ count then digits ++ zeros (count - digits.length) ++ whole
    else digits.take count ++ '.' :: digits.drop count

/-- One digit, a point and the other digits if there are any, and a signed exponent. -/
def scientificText (digits : List Char) (exponent : Int) : List Char :=
  let mantissa := match digits with
    | [] => []
    | [d] => [d]
    | d :: rest => d :: '.' :: rest
  let mark := if exponent < 0 then ['e', '-'] else ['e', '+']
  mantissa ++ mark ++ Nat.toDigits 10 exponent.natAbs

/-- The text of a number in a layout. -/
def text (layout : NumberLayout) (x : Binary64) : List Char :=
  let whole := if layout.wholePoint then ['.', '0'] else []
  let body :=
    if x.units = 0 then '0' :: whole
    else
      let shortest := shortestDigits layout.tie x.units
      let digits := Nat.toDigits 10 shortest.significand
      if layout.scientific shortest.exponent then scientificText digits shortest.exponent
      else positional whole digits shortest.exponent
  if x.negative then '-' :: body else body

end Binary64

end Conform
