import Conform.Date.Reader
import Conform.Field
import Conform.Text.Case

/-!
# The rules of the built-in kinds

A rule lets an empty value through unless the field is required.  Any other value is brought to the
form of the kind when the field coerces, then checked against the kind and against the facets that
the kind knows.  This file defines:

* `Kind.readString`, `Kind.readBoolean`, `Kind.readNumber`, `Kind.readDate`: the four families;
* `Kind.rule`: the rule of a kind;
* `FieldType.builtin`: a kind as a type.
-/

namespace Conform

namespace Kind

/-- The message of a value that is not of the kind. -/
def mistypedMessage (kind : Kind) (path : String) : String :=
  "Field \"" ++ path ++ "\" must be " ++ kind.noun

/-- The violation of a value that is not of the kind. -/
def mistyped (kind : Kind) (facets : Facets) (path : String) (value : Json) : Violation :=
  ⟨.mistyped kind, facets.messageFor none (kind.mistypedMessage path), path, value⟩

/-! ## Strings -/

/-- A number as a string. -/
def numberString : Json.Number → String
  | .float x =>
    -- A whole float is written as the integer that it is.
    let n := if x.isIntegral then Json.Number.ofBinary64 x else .float x
    String.ofList n.text
  | n => String.ofList n.text

/-- The text of a value that can be a string. -/
def stringOf? (coerce : Bool) : Json → Option String
  | .string s => some s
  | .number n => if coerce then some (numberString n) else none
  | .bool b => if coerce then some (if b then "true" else "false") else none
  | .null | .array _ | .object _ => none

/-- The text in the form that a coercing field asks for. -/
def reshape (facets : Facets) (text : String) : String :=
  if facets.coerce then
    let text := if facets.trim then Conform.trim text else text
    let text := if facets.lowercase then toLower text else text
    if facets.uppercase then toUpper text else text
  else text

/-- The rule of strings. -/
def readString (facets : Facets) (value : Json) (path : String) : Except Violation Json :=
  match stringOf? facets.coerce value with
  | none => .error (string.mistyped facets path value)
  | some text => do
    -- Characters are counted in the final form.
    let text := reshape facets text
    facets.demand .minLength facets.minLength (fun n => decide (n ≤ text.length))
      (fun n => "Field \"" ++ path ++ "\" length must be >= " ++ toString n) path (.string text)
    facets.demand .maxLength facets.maxLength (fun n => decide (text.length ≤ n))
      (fun n => "Field \"" ++ path ++ "\" length must be <= " ++ toString n) path (.string text)
    return .string text

/-! ## Booleans -/

def wordBoolean? (text : String) : Option Bool :=
  let word := toLower text
  if word = "1" ∨ word = "true" ∨ word = "yes" then some true
  else if word = "0" ∨ word = "false" ∨ word = "no" then some false
  else none

def numberBoolean? (x : Binary64) : Option Bool :=
  if x.sameValue (Binary64.ofInt 1 (by decide)) then some true
  else if x.isZero then some false
  else none

/-- Booleans, and when coercing one and zero and words. -/
def readBoolean (facets : Facets) (value : Json) (path : String) : Except Violation Json :=
  match value, facets.coerce with
  | .bool b, _ => .ok (.bool b)
  | .number n, true =>
    match numberBoolean? n.toBinary64 with
    | some b => .ok (.bool b)
    | none => .error (boolean.mistyped facets path value)
  | .string s, true =>
    match wordBoolean? s with
    | some b => .ok (.bool b)
    | none =>
      .error ⟨.mistyped .boolean, facets.messageFor none
        ("Field \"" ++ path ++ "\" value \"" ++ s ++ "\" is not allowed for a boolean"), path, value⟩
  | _, _ => .error (boolean.mistyped facets path value)

/-! ## Numbers -/

/-- How a message calls a finite number of the kind. -/
def finiteNoun : Kind → String
  | decimal128 => "decimal"
  | double => "double"
  | int32 => "integer"
  | _ => "number"

/-- The number that a value denotes, and whether the value is one already. -/
def numeral? (coerce : Bool) : Json → Option (Numeral × Bool)
  | .number n => some (.finite n.toBinary64, true)
  | .string s => if coerce then (Numeral.read? (trimChars s.toList)).map (·, false) else none
  | .bool b => if coerce then some (.finite (Binary64.ofInt (if b then 1 else 0)
      (by cases b <;> decide)), false) else none
  | .null | .array _ | .object _ => none

/-- Whether a whole number has at most 32 bits. -/
def fitsInt32 (x : Binary64) : Bool := decide (-2 ^ 31 ≤ x.toInt ∧ x.toInt < 2 ^ 31)

def atLeast (x : Binary64) : Bound → Bool
  | .number bound => decide (bound ≤ x)
  | .date _ => true

def atMost (x : Binary64) : Bound → Bool
  | .number bound => decide (x ≤ bound)
  | .date _ => true

/-- The checks of a finite number that is to be written as `output`. -/
def checkNumber (kind : Kind) (facets : Facets) (x : Binary64) (output value : Json)
    (path : String) : Except Violation Json := do
  if kind = int32 then
    if !x.isIntegral then throw (kind.mistyped facets path value)
    -- Here the violation shows the number that was read, not the value it was read from.
    if !fitsInt32 x then
      throw ⟨.mistyped .int32, facets.messageFor none ("Field \"" ++ path ++
        "\" must be an integer between -2147483648 and 2147483647"), path,
        .number (.ofBinary64 x)⟩
  facets.demand .min facets.min (atLeast x)
    (fun bound => "Field \"" ++ path ++ "\" must be >= " ++ bound.text) path output
  facets.demand .max facets.max (atMost x)
    (fun bound => "Field \"" ++ path ++ "\" must be <= " ++ bound.text) path output
  return output

/-- The rule of the kinds of numbers. -/
def readNumber (kind : Kind) (facets : Facets) (value : Json) (path : String) :
    Except Violation Json :=
  match numeral? facets.coerce value with
  | some (.finite x, asGiven) =>
    -- A number that is given as such keeps its form.
    kind.checkNumber facets x (if asGiven then value else .number (.ofBinary64 x)) value path
  | some (.infinite _, _) =>
    .error ⟨.mistyped kind, facets.messageFor none
      ("Field \"" ++ path ++ "\" must be a valid finite " ++ kind.finiteNoun), path, value⟩
  | some (.undefined, _) | none => .error (kind.mistyped facets path value)

/-! ## Dates -/

/-- The instant that a value denotes. -/
def instant? (coerce : Bool) : Json → Option Instant
  | .string s => if coerce then Instant.read? s else Instant.readStrict? s
  | .number n => if coerce then Instant.ofMillis? n.toBinary64 else none
  | .null | .bool _ | .array _ | .object _ => none

/-- Whether a bound from below on dates holds. -/
def notBefore (t : Instant) : Bound → Bool
  | .date bound => decide ¬ t < bound
  | .number _ => true

/-- Whether a bound from above on dates holds. -/
def notAfter (t : Instant) : Bound → Bool
  | .date bound => decide ¬ bound < t
  | .number _ => true

/-- Dates, written in canonical form when coercing. -/
def readDate (facets : Facets) (value : Json) (path : String) : Except Violation Json :=
  match instant? facets.coerce value with
  | none => .error (date.mistyped facets path value)
  | some t => do
    let output := if facets.coerce then .string t.write else value
    facets.demand .min facets.min (notBefore t)
      (fun bound => "Field \"" ++ path ++ "\" must be after " ++ bound.text) path output
    facets.demand .max facets.max (notAfter t)
      (fun bound => "Field \"" ++ path ++ "\" must be before " ++ bound.text) path output
    return output

/-! ## All kinds -/

/-- The rule of a kind for values that are not empty. -/
def readValue (kind : Kind) (facets : Facets) (value : Json) (path : String) :
    Except Violation Json :=
  match kind with
  | string => readString facets value path
  | boolean => readBoolean facets value path
  | number | int32 | decimal128 | double => kind.readNumber facets value path
  | date => readDate facets value path
  | object =>
    match value with
    | .object members => .ok (.object members)
    | value => .error (kind.mistyped facets path value)
  | array =>
    match value with
    | .array items => .ok (.array items)
    | value => .error (kind.mistyped facets path value)

def rule (kind : Kind) : Rule := fun _ facets value path =>
  if kind.isEmptyValue value then
    if facets.isRequired then .error (facets.requiredViolation path value) else .ok value
  else kind.readValue facets value path

end Kind

def FieldType.builtin (kind : Kind) : FieldType :=
  ⟨⟨kind.key, kind.name, some kind, kind.shortName?.toList, true, "Field must be " ++ kind.noun⟩,
    kind.rule⟩

end Conform
