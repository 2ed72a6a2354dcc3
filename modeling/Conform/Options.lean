import Conform.Json.Basic

/-!
# Options of schemas

This file defines:

* `Options`: whether documents are brought to the form of the schema, and whether absent fields are
  tolerated;
* `Options.ofJson?`: options as data, by name or by position.
-/

namespace Conform

/-- The options fixed when a schema is built. -/
structure Options where
  /-- Documents are brought to the form of the schema; otherwise they are only checked. -/
  coerce : Bool := true
  /-- Absent required fields are tolerated. -/
  partialInput : Bool := false
  deriving DecidableEq, Repr

namespace Options

/-- Documents are only checked. -/
def validateOnly : Options := { coerce := false }

/-- Absent required fields are tolerated. -/
def tolerant : Options := { partialInput := true }

/-- A boolean under a key, or the given one where the key is absent. -/
def flag? (members : List (String × Json)) (key : String) (otherwise : Bool) : Option Bool :=
  match Json.lookup key members with
  | some value => value.bool?
  | none => some otherwise

/-- Options by name, or in order; what is left out has its usual value. -/
def ofJson? : Json → Option Options
  | .object members => do
    let coerce ← flag? members "coerce" true
    let partialInput ← flag? members "partial" false
    return ⟨coerce, partialInput⟩
  | .array [] => some {}
  | .array [.bool coerce] => some { coerce }
  | .array [.bool coerce, .bool partialInput] => some ⟨coerce, partialInput⟩
  | _ => none

end Options

end Conform
