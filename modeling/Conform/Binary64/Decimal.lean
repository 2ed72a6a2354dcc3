import Conform.Binary64
import Conform.Text.Ascii

/-!
# Reading decimal numerals

A decimal numeral denotes `± digits * 10 ^ exponent`.  This file defines:

* `Decimal`: the exact value of a numeral;
* `Binary64.ofDecimal?`: the nearest finite number, by one exact rounding;
* `Numeral`: what a numeral text denotes, with infinities and the undefined number;
* `Numeral.read?`: the grammar of numeral texts, with optional sign, fraction and exponent, and the
  words `inf`, `infinity` and `nan` in either case.
-/

namespace Conform

/-- The exact value `± digits * 10 ^ exponent`. -/
structure Decimal where
  negative : Bool
  digits : Nat
  exponent : Int
  deriving DecidableEq, Repr

namespace Binary64

/-- The finite number nearest to a decimal, or `none` when that is too large. -/
def ofDecimal? (d : Decimal) : Option Binary64 :=
  if d.digits = 0 then some (zero d.negative)
  -- These two tests only keep the powers of ten small: a decimal that is at least `10 ^ 400` is too
  -- large, and one below `10 ^ -400` rounds to zero.
  else if 400 < d.exponent then none
  else if d.exponent < -(401 + (d.digits.log2 : Int)) then some (zero d.negative)
  else if 0 ≤ d.exponent then ofRatio? d.negative (d.digits * 10 ^ d.exponent.toNat) 1
  else ofRatio? d.negative d.digits (10 ^ (-d.exponent).toNat)

end Binary64

/-! ## Numeral texts -/

/-- What a numeral text denotes. -/
inductive Numeral where
  | finite (x : Binary64)
  | infinite (negative : Bool)
  | undefined
  deriving DecidableEq

namespace Numeral

/-- Reads a run of digits after the digits already gathered in `seen`, counting the new ones. -/
def readDigits : List Char → (seen count : Nat) → Nat × Nat × List Char
  | [], seen, count => (seen, count, [])
  | c :: rest, seen, count =>
    match digit? c with
    | some d => readDigits rest (seen * 10 + d) (count + 1)
    | none => (seen, count, c :: rest)

/-- An optional sign; the flag says whether it is a minus. -/
def readSign : List Char → Bool × List Char
  | '-' :: rest => (true, rest)
  | '+' :: rest => (false, rest)
  | text => (false, text)

/-- The exponent part up to the end of the text: absent, or a mark, an optional sign and digits. -/
def readExponent? : List Char → Option Int
  | [] => some 0
  | c :: rest =>
    if c = 'e' ∨ c = 'E' then
      let (negative, rest) := readSign rest
      match readDigits rest 0 0 with
      | (n, _ + 1, []) => some (if negative then -n else n)
      | _ => none
    else none

/-- An unsigned numeral: digits on at least one side of an optional point, then an exponent. -/
def readUnsigned? (negative : Bool) (text : List Char) : Option Decimal :=
  let (whole, wholeCount, rest) := readDigits text 0 0
  let (digits, places, rest) := match rest with
    | '.' :: rest => readDigits rest whole 0
    | rest => (whole, 0, rest)
  if wholeCount + places = 0 then none
  else (readExponent? rest).map fun e => ⟨negative, digits, e - places⟩

/-- Reads a whole text as a numeral; a decimal that is too large denotes an infinity. -/
def read? (text : List Char) : Option Numeral :=
  let (negative, body) := readSign text
  let word := String.ofList (body.map asciiLower)
  if word = "inf" ∨ word = "infinity" then some (.infinite negative)
  else if word = "nan" then some .undefined
  else (readUnsigned? negative body).map fun d =>
    match Binary64.ofDecimal? d with
    | some x => .finite x
    | none => .infinite negative

end Numeral

end Conform
