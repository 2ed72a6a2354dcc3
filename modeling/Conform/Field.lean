import Conform.Field.Facets
import Conform.Text.Blank

/-!
# Fields

A field is a type with facets.  The rule of a type sees the facets of the field and what the type
is called, and answers with the value to write or with a violation.  This file defines:

* `TypeInfo`: how a type is called and what it behaves like;
* `Rule`, and `FieldType`: a type with its rule;
* `Field`, with `Field.bare`: no facets but coercion;
* `Json.isBlank`, `Field.isEmptyValue`: emptiness as the type of a field sees it.
-/

namespace Conform

/-- How a type is called and what it behaves like. -/
structure TypeInfo where
  /-- The name under which it is registered. -/
  key : String
  /-- The name as given. -/
  name : String
  /-- The built-in kind that it behaves like. -/
  base : Option Kind
  /-- Further names under which it is found. -/
  aliases : List String
  /-- Whether its fields coerce unless they say otherwise. -/
  coerce : Bool
  message : String

/-- Checks a value at a path, and brings it to the form of the type when the facets say so. -/
abbrev Rule := TypeInfo → Facets → Json → (path : String) → Except Violation Json

/-- A type with its rule. -/
structure FieldType where
  info : TypeInfo
  rule : Rule

/-- A type with facets. -/
structure Field where
  type : FieldType
  facets : Facets

/-- `null` and strings of blanks alone are blank. -/
def Json.isBlank : Json → Bool
  | .null => true
  | .string s => (trim s).isEmpty
  | _ => false

/-- Emptiness as a kind sees it: a boolean is also missing where a string of blanks stands. -/
def Kind.isEmptyValue (kind : Kind) (value : Json) : Bool :=
  match kind with
  | .boolean => value.isBlank
  | _ => value.isEmpty

namespace Field

/-- A field without facets, which coerces when its type does. -/
def bare (type : FieldType) : Field := ⟨type, { coerce := type.info.coerce }⟩

/-- Emptiness as the type of the field sees it. -/
def isEmptyValue (field : Field) (value : Json) : Bool :=
  match field.type.info.base with
  | some kind => kind.isEmptyValue value
  | none => value.isEmpty

/-- The rule of the field's type, applied to a value. -/
def applyRule (field : Field) (value : Json) (path : String) : Except Violation Json :=
  field.type.rule field.type.info field.facets value path

end Field

end Conform
