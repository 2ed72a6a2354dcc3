import Conform.Date.Instant
import Conform.Text.Ascii
import Conform.Text.Blank

/-!
# Reading dates

A date text is a timestamp with an offset from universal time, or a day with or without a time,
which is then taken as universal time.  A timestamp has fields of fixed width; the other forms
allow blanks before a number and shorter fields.  This file defines:

* `readWidth?`: a number of bounded width;
* `readTimestamp?`: the form with an offset;
* `readDateTime?` and `readDay?`: the forms without one;
* `Instant.read?`: all of them, tried in this order on the trimmed text.
-/

namespace Conform

namespace Instant

/-! ## Fields -/

/-- At most `width` digits, after the number `seen`; returns the number, how many digits were read
and what is left. -/
def takeDigits : (width : Nat) → List Char → (seen count : Nat) → Nat × Nat × List Char
  | 0, text, seen, count => (seen, count, text)
  | _ + 1, [], seen, count => (seen, count, [])
  | width + 1, c :: rest, seen, count =>
    match digit? c with
    | some d => takeDigits width rest (seen * 10 + d) (count + 1)
    | none => (seen, count, c :: rest)

/-- A number of at least `least` and at most `most` digits. -/
def readWidth? (least most : Nat) (text : List Char) : Option (Nat × List Char) :=
  match takeDigits most text 0 0 with
  | (n, count, rest) => if least ≤ count then some (n, rest) else none

def readChar? (expected : Char) : List Char → Option (List Char)
  | c :: rest => if c = expected then some rest else none
  | [] => none

/-- An optional fraction of a second in nanoseconds. -/
def readFraction? : List Char → Option (Nat × List Char)
  | '.' :: rest =>
    -- Only nine digits count; those after them are passed over.
    match takeDigits 9 rest 0 0 with
    | (_, 0, _) => none
    | (n, count, rest) => some (n * 10 ^ (9 - count), rest.dropWhile Char.isDigit)
  | text => some (0, text)

/-! ## Timestamps -/

/-- An offset in seconds. -/
def readOffset? : List Char → Option (Int × List Char)
  | 'Z' :: rest => some (0, rest)
  | 'z' :: rest => some (0, rest)
  | sign :: rest => do
    let negative ←
      if sign = '+' then some false
      -- The minus of mathematical text is a sign as well.
      else if sign = '-' ∨ sign.toNat = 0x2212 then some true
      else none
    let (hours, rest) ← readWidth? 2 2 rest
    let rest ← readChar? ':' rest
    let (minutes, rest) ← readWidth? 2 2 rest
    if hours ≤ 23 ∧ minutes ≤ 59 then
      let seconds : Int := (hours * 3600 + minutes * 60 : Nat)
      some (if negative then -seconds else seconds, rest)
    else none
  | [] => none

/-- The instant of valid fields at the end of the text. -/
def finish? (d : Day) (t : TimeOfDay) (offset : Int) (rest : List Char) : Option Instant :=
  if d.IsValid ∧ t.IsValid ∧ rest = [] then some (ofLocal d t offset) else none

/-- A timestamp with an offset; `T`, `t` or a space stands between day and time. -/
def readTimestamp? (text : List Char) : Option Instant := do
  let (year, rest) ← readWidth? 4 4 text
  let rest ← readChar? '-' rest
  let (month, rest) ← readWidth? 2 2 rest
  let rest ← readChar? '-' rest
  let (day, rest) ← readWidth? 2 2 rest
  let rest ← match rest with
    | c :: rest => if c = 'T' ∨ c = 't' ∨ c = ' ' then some rest else none
    | [] => none
  let (hour, rest) ← readWidth? 2 2 rest
  let rest ← readChar? ':' rest
  let (minute, rest) ← readWidth? 2 2 rest
  let rest ← readChar? ':' rest
  let (second, rest) ← readWidth? 2 2 rest
  let (nanos, rest) ← readFraction? rest
  let (offset, rest) ← readOffset? rest
  finish? ⟨year, month, day⟩ ⟨hour, minute, second, nanos⟩ offset rest

/-! ## Days and times without an offset -/

/-- A number of one or two digits after blanks. -/
def readField? (text : List Char) : Option (Nat × List Char) := readWidth? 1 2 (trimStart text)

/-- A year after blanks: up to four digits, or a sign and any number of digits. -/
def readYear? (text : List Char) : Option (Int × List Char) :=
  match trimStart text with
  | '-' :: rest => (readWidth? 1 rest.length rest).map fun (n, rest) => (-n, rest)
  | '+' :: rest => (readWidth? 1 rest.length rest).map fun (n, rest) => (n, rest)
  | rest => (readWidth? 1 4 rest).map fun (n, rest) => (n, rest)

/-- A year, a month and a day of the month, joined by hyphens. -/
def readDate? (text : List Char) : Option (Day × List Char) := do
  let (year, rest) ← readYear? text
  let rest ← readChar? '-' rest
  let (month, rest) ← readField? rest
  let rest ← readChar? '-' rest
  let (day, rest) ← readField? rest
  return (⟨year, month, day⟩, rest)

/-- A day, a separator and a time to the second with an optional fraction. -/
def readDateTime? (separator? : List Char → Option (List Char)) (text : List Char) :
    Option Instant := do
  let (d, rest) ← readDate? text
  let rest ← separator? rest
  let (hour, rest) ← readField? rest
  let rest ← readChar? ':' rest
  let (minute, rest) ← readField? rest
  let rest ← readChar? ':' rest
  let (second, rest) ← readField? rest
  let (nanos, rest) ← readFraction? rest
  finish? d ⟨hour, minute, second, nanos⟩ 0 rest

def readDay? (text : List Char) : Option Instant := do
  let (d, rest) ← readDate? text
  finish? d .midnight 0 rest

/-! ## Date texts -/

/-- The instant of a timestamp with an offset, blanks around it allowed. -/
def readStrict? (text : String) : Option Instant := readTimestamp? (trimChars text.toList)

/-- The instant of a date text, blanks around it allowed. -/
def read? (text : String) : Option Instant :=
  let text := trimChars text.toList
  readTimestamp? text
    <|> readDateTime? (readChar? 'T') text
    <|> readDateTime? (fun rest => some (trimStart rest)) text
    <|> readDay? text

end Instant

end Conform
