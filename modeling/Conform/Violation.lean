import Conform.Kind

/-!
# Violations

The checking of a document stops at the first rule that is broken.  This file defines:

* `Fault`: which rule was broken, with its code;
* `Violation`: a fault with its message, its path and the offending value;
* `Violation.toJson`: a violation as a document.
-/

namespace Conform

/-- Which rule was broken. -/
inductive Fault where
  | required
  | mistyped (kind : Kind)
  | min
  | max
  | minLength
  | maxLength
  | enum
  | pattern
  | refused
  | registered (code : String)
  deriving DecidableEq, Repr

/-- The code of a fault; a registered type has a code of its own. -/
def Fault.code : Fault → String
  | required => "required"
  | mistyped kind => kind.key
  | min => "min"
  | max => "max"
  | minLength => "minlength"
  | maxLength => "maxlength"
  | enum => "enum"
  | pattern => "match"
  | refused => "user"
  | registered code => code

/-- A broken rule: what it was, what to say about it, where it was broken and by which value. -/
structure Violation where
  fault : Fault
  message : String
  path : String
  value : Json

def Violation.toJson (v : Violation) : Json :=
  .object [("kind", .string v.fault.code), ("message", .string v.message),
    ("path", .string v.path), ("value", v.value)]

end Conform
