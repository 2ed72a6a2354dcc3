import Conform.Json.Basic

/-!
# Reading JSON text

A reader takes the characters that are left and returns a value with the characters after it.  This
file defines:

* `readNumber?`: the number grammar, and the two-step rounding of a decimal to a float;
* `readString?`: strings with their escapes;
* `readValue?`: values nested at most `maxDepth` containers deep;
* `Json.read?`: a whole text, blank space around one value.

A key that is given twice keeps its first position and its last value.
-/

namespace Conform

namespace Json

/-! ## Numbers -/

/-- The significand of a numeral: digits are gathered while they fit 64 bits. -/
structure Significand where
  value : Nat
  full : Bool
  /-- The power of ten by which the value is to be scaled for the digits that were read. -/
  exponent : Int

namespace Significand

/-- Takes one more digit before the point. -/
def whole (s : Significand) (d : Nat) : Significand :=
  -- Once a digit did not fit, digits only scale.
  if s.full || 2 ^ 64 ≤ s.value * 10 + d then { s with full := true, exponent := s.exponent + 1 }
  else { s with value := s.value * 10 + d }

/-- Takes one more digit after the point. -/
def fraction (s : Significand) (d : Nat) : Significand :=
  -- Once a digit did not fit, digits are dropped.
  if s.full || 2 ^ 64 ≤ s.value * 10 + d then { s with full := true }
  else { s with value := s.value * 10 + d, exponent := s.exponent - 1 }

end Significand

/-- Feeds a run of digits to a significand and counts them. -/
def readRun (take : Significand → Nat → Significand) :
    List Char → Significand → (count : Nat) → Significand × Nat × List Char
  | [], s, count => (s, count, [])
  | c :: rest, s, count =>
    match digit? c with
    | some d => readRun take rest (take s d) (count + 1)
    | none => (s, count, c :: rest)

/-- The float nearest to a power of ten, up to `10 ^ 308`. -/
def powerOfTen? (n : Nat) : Option Binary64 :=
  if n ≤ 308 then Binary64.ofRatio? false (10 ^ n) 1 else none

/-- Divides by `10 ^ n`, in steps of at most 308 powers, each one rounded. -/
def divideByTens? (x : Binary64) (n : Nat) : Option Binary64 :=
  if n ≤ 308 then (powerOfTen? n).bind x.div?
  else if x.isZero then some x
  else ((powerOfTen? 308).bind x.div?).bind fun y => divideByTens? y (n - 308)
termination_by n

/-- Scales by a power of ten. -/
def scaleByTens? (x : Binary64) (exponent : Int) : Option Binary64 :=
  -- Upward there is one rounded product, downward there may be several rounded quotients.
  if exponent < 0 then divideByTens? x (-exponent).toNat
  else if x.isZero then some x
  else (powerOfTen? exponent.toNat).bind x.mul?

/-- The float of a gathered numeral: the significand is rounded first and then scaled. -/
def floatOf? (negative : Bool) (significand : Nat) (exponent : Int) : Option Binary64 :=
  (Binary64.ofRatio? negative significand 1).bind fun x => scaleByTens? x exponent

/-- The exponents that are applied; a larger one makes any nonzero numeral too large or zero. -/
def exponentLimit : Nat := 2 ^ 31

/-- The digits of an exponent after its mark, with an optional sign. -/
def readExponentDigits? (text : List Char) : Option (Int × List Char) :=
  let (negative, text) := Numeral.readSign text
  match Numeral.readDigits text 0 0 with
  | (_, 0, _) => none
  | (n, _, rest) => some (if negative then -n else n, rest)

/-- A number after its optional minus sign. -/
def readMagnitude? (negative : Bool) (text : List Char) : Option (Number × List Char) := do
  let (s, count, rest) := readRun Significand.whole text ⟨0, false, 0⟩ 0
  if count = 0 then none
  if text.head? = some '0' ∧ 1 < count then none
  let (s, places, rest) ← match rest with
    | '.' :: rest =>
      -- A digit that does not fit counts afresh after the point.
      match readRun Significand.fraction rest { s with full := false } 0 with
      | (_, 0, _) => none
      | (s, places, rest) => some (s, places, rest)
    | rest => some (s, 0, rest)
  let (exponent, marked, rest) ← match rest with
    | 'e' :: rest => (readExponentDigits? rest).map fun (e, rest) => (e, true, rest)
    | 'E' :: rest => (readExponentDigits? rest).map fun (e, rest) => (e, true, rest)
    | rest => some (0, false, rest)
  let signed : Int := if negative then -s.value else s.value
  if h : InIntegerRange signed ∧ s.exponent = 0 ∧ places = 0 ∧ marked = false ∧
      (negative = true → s.value ≠ 0) then
    return (.integer signed h.1, rest)
  else
    -- Beyond the limit the outcome does not depend on the digits any more.
    if exponentLimit ≤ exponent.natAbs then
      if s.value = 0 ∨ exponent < 0 then return (.float (Binary64.zero negative), rest) else none
    let x ← floatOf? negative s.value (s.exponent + exponent)
    return (.float x, rest)

def readNumber? : List Char → Option (Number × List Char)
  | '-' :: rest => readMagnitude? true rest
  | text => readMagnitude? false text

/-! ## Strings -/

def readHex4? : List Char → Option (Nat × List Char)
  | a :: b :: c :: d :: rest => do
    let a ← hexDigit? a
    let b ← hexDigit? b
    let c ← hexDigit? c
    let d ← hexDigit? d
    return (a * 4096 + b * 256 + c * 16 + d, rest)
  | _ => none

/-- The characters after a backslash that stand for one character. -/
def readEscape? : List Char → Option (Char × List Char)
  | '"' :: rest => some ('"', rest)
  | '\\' :: rest => some ('\\', rest)
  | '/' :: rest => some ('/', rest)
  | 'b' :: rest => some (Char.ofNat 8, rest)
  | 'f' :: rest => some (Char.ofNat 12, rest)
  | 'n' :: rest => some ('\n', rest)
  | 'r' :: rest => some ('\r', rest)
  | 't' :: rest => some ('\t', rest)
  | 'u' :: rest => do
    let (high, rest) ← readHex4? rest
    -- Surrogates come in pairs; a low one alone is no character.
    if 0xD800 ≤ high ∧ high < 0xDC00 then
      match rest with
      | '\\' :: 'u' :: rest =>
        let (low, rest) ← readHex4? rest
        if 0xDC00 ≤ low ∧ low < 0xE000 then
          let c ← charOfCode? (0x10000 + (high - 0xD800) * 0x400 + (low - 0xDC00))
          return (c, rest)
        else none
      | _ => none
    else
      let c ← charOfCode? high
      return (c, rest)
  | _ => none

/-- The characters of a string up to its closing quote, gathered in reverse. -/
def readStringBody? : (fuel : Nat) → List Char → (seen : List Char) → Option (String × List Char)
  | 0, _, _ => none
  | _ + 1, [], _ => none
  | fuel + 1, c :: rest, seen =>
    if c = '"' then some (String.ofList seen.reverse, rest)
    else if c = '\\' then
      (readEscape? rest).bind fun (c, rest) => readStringBody? fuel rest (c :: seen)
    else if c.toNat < 32 then none
    else readStringBody? fuel rest (c :: seen)

/-- A string after its opening quote. -/
def readString? (text : List Char) : Option (String × List Char) :=
  readStringBody? (text.length + 1) text []

/-! ## Values -/

def isSpace (c : Char) : Bool := c == ' ' || c == '\n' || c == '\t' || c == '\r'

def skipSpace (text : List Char) : List Char := text.dropWhile isSpace

/-- Values separated by commas up to a closing bracket, the first one due now. -/
def readItems? (value? : List Char → Option (Json × List Char)) :
    (fuel : Nat) → List Char → List Json → Option (List Json × List Char)
  | 0, _, _ => none
  | fuel + 1, text, seen => do
    let (item, rest) ← value? text
    match skipSpace rest with
    | ',' :: rest => readItems? value? fuel rest (item :: seen)
    | ']' :: rest => some ((item :: seen).reverse, rest)
    | _ => none

/-- Members separated by commas up to a closing brace, the first one due now. -/
def readMembers? (value? : List Char → Option (Json × List Char)) :
    (fuel : Nat) → List Char → List (String × Json) → Option (List (String × Json) × List Char)
  | 0, _, _ => none
  | fuel + 1, text, seen =>
    match skipSpace text with
    | '"' :: rest => do
      let (key, rest) ← readString? rest
      match skipSpace rest with
      | ':' :: rest =>
        let (value, rest) ← value? rest
        -- A key that was seen before keeps its place.
        let seen := insert key value seen
        match skipSpace rest with
        | ',' :: rest => readMembers? value? fuel rest seen
        | '\x7d' :: rest => some (seen, rest)
        | _ => none
      | _ => none
    | _ => none

/-- A value with at most `depth` containers around its innermost part. -/
def readValue? : (depth : Nat) → List Char → Option (Json × List Char)
  | depth, text =>
    match skipSpace text with
    | 'n' :: 'u' :: 'l' :: 'l' :: rest => some (null, rest)
    | 't' :: 'r' :: 'u' :: 'e' :: rest => some (bool true, rest)
    | 'f' :: 'a' :: 'l' :: 's' :: 'e' :: rest => some (bool false, rest)
    | '"' :: rest => (readString? rest).map fun (s, rest) => (string s, rest)
    | '[' :: rest =>
      match depth with
      | 0 => none
      | depth + 1 =>
        match skipSpace rest with
        | ']' :: rest => some (array [], rest)
        | _ => (readItems? (readValue? depth) (rest.length + 1) rest []).map
            fun (items, rest) => (array items, rest)
    | '\x7b' :: rest =>
      match depth with
      | 0 => none
      | depth + 1 =>
        match skipSpace rest with
        | '\x7d' :: rest => some (object [], rest)
        | _ => (readMembers? (readValue? depth) (rest.length + 1) rest []).map
            fun (members, rest) => (object members, rest)
    | text => (readNumber? text).map fun (n, rest) => (number n, rest)

/-- The greatest number of containers around a value. -/
def maxDepth : Nat := 127

/-- The document that a whole text spells, or `none` when it spells none. -/
def read? (text : String) : Option Json :=
  match readValue? maxDepth text.toList with
  | some (document, rest) => if (skipSpace rest).isEmpty then some document else none
  | none => none

end Json

end Conform
