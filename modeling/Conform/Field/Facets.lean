import Conform.Date.Writer
import Conform.Json.Writer
import Conform.Pattern
import Conform.Violation

/-!
# Facets of fields

A field narrows its type by facets: bounds, lengths, a pattern, a list of allowed values, a check of
its own, and a form for text.  This file defines:

* `Clause`: the value of a facet with the message that belongs to it;
* `Bound`, with its written form;
* `Default`: what stands in for an absent value;
* `Facets`;
* `Facets.messageFor`: the clause's own message, else that of the field, else a given one;
* `Facets.demand`: the one way in which a clause is enforced;
* `Facets.checkValue`: the facets that hold for values of every type.
-/

namespace Conform

/-! ## Parts -/

/-- The value of a facet with the message that belongs to it, if any. -/
structure Clause (α : Type) where
  value : α
  message : Option String
  deriving DecidableEq

/-- An inclusive bound. -/
inductive Bound where
  | number (x : Binary64)
  | date (t : Instant)
  deriving DecidableEq

namespace Bound

/-- Bounds are written without exponents, and whole ones without a point. -/
def layout : Binary64.NumberLayout := ⟨fun _ => false, .up, false⟩

/-- The written form of a numeric bound; below `10 ^ 15` a whole number has no sign of zero. -/
def numberText (x : Binary64) : List Char :=
  if x.isIntegral ∧ x.toInt.natAbs < 10 ^ 15 then Json.Number.integerText x.toInt
  else x.text layout

def text : Bound → String
  | number x => String.ofList (numberText x)
  | date t => t.write

end Bound

/-- What stands in for an absent value: always the same, or the next output of a generator. -/
inductive Default where
  | fixed (value : Json)
  | drawn (generator : Nat) (outputs : Nat → Json)

/-! ## Facets -/

/-- The facets of a field. -/
structure Facets where
  /-- Whether values are brought to the form of the type. -/
  coerce : Bool
  required : Option (Clause Bool) := none
  default : Option Default := none
  min : Option (Clause Bound) := none
  max : Option (Clause Bound) := none
  minLength : Option (Clause Nat) := none
  maxLength : Option (Clause Nat) := none
  pattern : Option (Clause Pattern) := none
  allowed : Option (Clause (List Json)) := none
  check : Option (Clause (Json → Bool)) := none
  trim : Bool := false
  lowercase : Bool := false
  uppercase : Bool := false
  message : Option String := none

namespace Facets

/-- Whether a value must be given and not be empty. -/
def isRequired (facets : Facets) : Bool :=
  match facets.required with
  | some clause => clause.value
  | none => false

/-- The message of a clause, else that of the field, else the given one. -/
def messageFor (facets : Facets) (specific : Option String) (fallback : String) : String :=
  (specific.or facets.message).getD fallback

/-- The violation of a required field without a value. -/
def requiredViolation (facets : Facets) (path : String) (value : Json) : Violation :=
  ⟨.required, facets.messageFor (facets.required.bind (·.message))
    ("Field \"" ++ path ++ "\" is required"), path, value⟩

/-- Demands that a clause, if there is one, hold of a value. -/
def demand (facets : Facets) (fault : Fault) (clause : Option (Clause α)) (holds : α → Bool)
    (fallback : α → String) (path : String) (value : Json) : Except Violation Unit :=
  match clause with
  | some clause =>
    if holds clause.value then .ok ()
    else .error ⟨fault, facets.messageFor clause.message (fallback clause.value), path, value⟩
  | none => .ok ()

end Facets

/-! ## Facets of every type -/

/-- Membership among allowed values; numbers are compared by value, not by form. -/
def isAllowed (values : List Json) (value : Json) : Bool :=
  values.any fun allowed =>
    match allowed, value with
    | .number a, .number b => a.sameValue b
    | allowed, value => allowed.same value

/-- How messages show a list of values: strings as they are, all else as documents. -/
def listText (values : List Json) : String :=
  ", ".intercalate (values.map fun value => value.string?.getD value.text)

/-- The text of a scalar against which a pattern is tried. -/
def patternText? : Json → Option String
  | .string s => some s
  | .number n => some (String.ofList n.text)
  | .bool b => some (if b then "true" else "false")
  | .null | .array _ | .object _ => none

/-- Whether a value has a text that the pattern matches. -/
def Pattern.accepts (pattern : Pattern) (value : Json) : Bool :=
  match patternText? value with
  | some text => pattern.isMatch text
  | none => false

namespace Facets

/-- The facets that hold for values of every type: allowed values, then pattern, then check. -/
def checkValue (facets : Facets) (value : Json) (path : String) : Except Violation Unit := do
  facets.demand .enum facets.allowed (isAllowed · value)
    (fun values => "Field \"" ++ path ++ "\" must be one of: " ++ listText values) path value
  facets.demand .pattern facets.pattern (·.accepts value)
    (fun _ => "Field \"" ++ path ++ "\" does not match required pattern") path value
  facets.demand .refused facets.check (· value)
    (fun _ => "Field \"" ++ path ++ "\" failed custom validation") path value

end Facets

end Conform
