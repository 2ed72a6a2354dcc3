import Conform.Binary64.Shortest

/-!
# Numbers of JSON documents

A JSON number is an integer of at most 64 bits or a finite floating-point number; `1` and `1.0` are
different numbers of the same value.  This file defines:

* `Json.Number`: the two forms, the integer one with its range;
* `toBinary64`: the numeric reading used by every bound and comparison;
* `ofBinary64`: a number of the given value, in integer form when it is a signed 64-bit integer;
* `same`: equality as a document sees it, and `sameValue`: numeric equality;
* `text`: the written form.
-/

namespace Conform

namespace Json

/-- The integers that are kept exactly: 64-bit signed or unsigned. -/
def InIntegerRange (n : Int) : Prop := -2 ^ 63 ≤ n ∧ n < 2 ^ 64

instance (n : Int) : Decidable (InIntegerRange n) :=
  inferInstanceAs (Decidable (-2 ^ 63 ≤ n ∧ n < 2 ^ 64))

/-- A JSON number: an exact integer in range, or a finite floating-point number. -/
inductive Number where
  | integer (n : Int) (inRange : InIntegerRange n)
  | float (x : Binary64)
  deriving DecidableEq

namespace Number

theorem natAbs_le_of_inIntegerRange {n : Int} (h : InIntegerRange n) : n.natAbs ≤ 2 ^ 64 := by
  unfold InIntegerRange at h
  omega

/-- The floating-point number nearest to a JSON number. -/
def toBinary64 : Number → Binary64
  | integer n h => Binary64.ofInt n (natAbs_le_of_inIntegerRange h)
  | float x => x

/-- A whole number from `-2 ^ 63` up to but excluding `2 ^ 63`. -/
def FitsInteger (x : Binary64) : Prop :=
  x.isIntegral = true ∧ -2 ^ 63 ≤ x.toInt ∧ x.toInt < 2 ^ 63

instance (x : Binary64) : Decidable (FitsInteger x) :=
  inferInstanceAs (Decidable (_ ∧ _ ∧ _))

theorem inIntegerRange_of_fitsInteger {x : Binary64} (h : FitsInteger x) :
    InIntegerRange x.toInt := by
  unfold FitsInteger at h
  unfold InIntegerRange
  omega

/-- The JSON number of a value: an integer when it is a signed 64-bit one, else a float. -/
def ofBinary64 (x : Binary64) : Number :=
  if h : FitsInteger x then integer x.toInt (inIntegerRange_of_fitsInteger h) else float x

/-- Equality as a document sees it: the forms must agree, and the two zeros are equal floats. -/
def same : Number → Number → Bool
  | integer m _, integer n _ => m == n
  | float x, float y => x.sameValue y
  | _, _ => false

/-- Numeric equality of the floating-point readings. -/
def sameValue (m n : Number) : Bool := m.toBinary64.sameValue n.toBinary64

/-- Numbers are written positionally while the leading digit stands between `1e-5` and `1e15`. -/
def layout : Binary64.NumberLayout :=
  ⟨fun exponent => decide (exponent < -5 ∨ 16 ≤ exponent), .even, true⟩

def integerText (n : Int) : List Char :=
  if n < 0 then '-' :: Nat.toDigits 10 n.natAbs else Nat.toDigits 10 n.natAbs

def text : Number → List Char
  | integer n _ => integerText n
  | float x => x.text layout

end Number

end Json

end Conform
