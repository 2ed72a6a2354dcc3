import Conform.Path
import Conform.Registry

/-!
# Definitions of schemas

A definition is what an author writes: references to types, fields with constraints in any of their
shorthand forms, nested objects and arrays of one item.  This file defines:

* `CheckForm`: the forms in which a field states a check of its own;
* `FieldDefinition`, with `FieldDefinition.constrain`;
* `Definition`;
* `Definition.ofJson`: the definition that a document states.
-/

namespace Conform

/-! ## Fields -/

/-- The forms in which a field states a check of its own. -/
inductive CheckForm where
  | bare (holds : Json → Bool)
  | withMessage (holds : Json → Bool) (message : String)
  | clause (clause : Clause (Json → Bool))
  | overridden (clause : Clause (Json → Bool)) (message : String)

/-- The check with the message that goes with it. -/
def CheckForm.toClause : CheckForm → Clause (Json → Bool)
  | bare holds => ⟨holds, none⟩
  | withMessage holds message => ⟨holds, some message⟩
  | clause c => c
  | overridden c message => ⟨c.value, some message⟩

/-- A field as written: constraints are kept in the order and form in which they were given. -/
structure FieldDefinition where
  type : TypeRef
  constraints : List (String × Json) := []
  default : Option Default := none
  check : Option CheckForm := none
  pattern : Option (Clause Pattern) := none

/-- States a constraint; one that was stated before keeps its place. -/
def FieldDefinition.constrain (field : FieldDefinition) (key : String) (value : Json) :
    FieldDefinition :=
  { field with constraints := Json.insert key value field.constraints }

/-! ## Definitions -/

/-- A definition of a schema or of a part of one. -/
inductive Definition where
  | type (ref : TypeRef)
  | field (field : FieldDefinition)
  | object (members : List (String × Definition))
  | array (items : List Definition)

namespace Definition

/-- A field with one more member of the document that states it. -/
def addMember (path : String) (field : FieldDefinition) (member : String × Json) :
    Except SchemaError FieldDefinition :=
  if member.1 = "type" then .ok field
  else if member.1 = "default" then .ok { field with default := some (.fixed member.2) }
  else if member.1 = "validate" then
    .error (.invalidConstraint path "validate" .checkInData)
  else .ok (field.constrain member.1 member.2)

/-- The field that the members of an object state. -/
def fieldOfMembers (path type : String) (members : List (String × Json)) :
    Except SchemaError FieldDefinition :=
  members.foldlM (addMember path) { type := .name type }

mutual

/-- The definition that a document states at a path. -/
def ofJsonAt (path : String) : Json → Except SchemaError Definition
  | .string name => .ok (.type (.name name))
  | .array items => do return .array (← ofItems (path ++ "[]") items)
  | .object members =>
    match Json.lookup "type" members with
    | some (.string name) => do return .field (← fieldOfMembers path name members)
    -- A member `type` that is no string is a member like any other.
    | _ => do return .object (← ofMembers path members)
  | .null => .error (.invalidDefinition path (.scalar .null))
  | .bool b => .error (.invalidDefinition path (.scalar (.bool b)))
  | .number n => .error (.invalidDefinition path (.scalar (.number n)))

def ofItems (path : String) : List Json → Except SchemaError (List Definition)
  | [] => .ok []
  | item :: rest => do
    let item ← ofJsonAt path item
    return item :: (← ofItems path rest)

def ofMembers (path : String) : List (String × Json) →
    Except SchemaError (List (String × Definition))
  | [] => .ok []
  | (key, value) :: rest => do
    let definition ← ofJsonAt (Path.child path key) value
    return (key, definition) :: (← ofMembers path rest)

end

def ofJson (document : Json) : Except SchemaError Definition := ofJsonAt "" document

end Definition

end Conform
