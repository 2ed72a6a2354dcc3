import Conform.Json.Writer

/-!
# Errors of schemas

A schema is refused before it meets any document when its definition does not make sense, and a type
is refused when it cannot be registered.  This file defines:

* `ConstraintProblem`, `DefinitionProblem`: what is wrong with a constraint or a definition;
* `SchemaError`: the reasons for a refusal, with the place of the fault;
* `SchemaError.message`.
-/

namespace Conform

/-- The text that stands where the reason of a failure lies outside of this library. -/
def outsideReason : String := "<source>"

/-- What is wrong with the value of a constraint. -/
inductive ConstraintProblem where
  | notBoolean
  | notString
  | notPair
  | messageNotString
  | notNumber (found : Json)
  | notDate (found : Json)
  | notLength (found : Json)
  | notPattern
  | notList
  | checkInData

def ConstraintProblem.message : ConstraintProblem → String
  | notBoolean => "expected a boolean"
  | notString => "expected a string"
  | notPair => "expected a value or a [value, message] pair"
  | messageNotString => "message must be a string"
  | notNumber found => "expected a number, found " ++ found.text
  | notDate found => "expected a date, found " ++ found.text
  | notLength found => "expected a non-negative integer, found " ++ found.text
  | notPattern => "expected a pattern string"
  | notList => "expected a list of values"
  | checkInData =>
    "custom validators cannot be expressed in data; attach them with FieldDef::validate"

/-- What is wrong with a definition. -/
inductive DefinitionProblem where
  | scalar (found : Json)
  | rootNotObject
  | badName
  | repeatedName

def DefinitionProblem.message : DefinitionProblem → String
  | scalar found => "expected a type name, an object or an array, found " ++ found.text
  | rootNotObject => "the root schema must be an object"
  | badName => "field names must be non-empty and must not contain '.', '[' or ']'"
  | repeatedName => "field is declared twice"

/-- Why a schema or a type is refused. -/
inductive SchemaError where
  | unknownType (key : String)
  | namelessType
  | duplicateType (name : String)
  | missingRule (name : String)
  | invalidPattern (path : String)
  | invalidConstraint (path key : String) (problem : ConstraintProblem)
  | arrayArity (path : String) (found : Nat)
  | invalidDefinition (path : String) (problem : DefinitionProblem)

def SchemaError.message : SchemaError → String
  | unknownType key => "Unknown type: " ++ key
  | namelessType => "Type name must be a non-empty string"
  | duplicateType name => "Type \"" ++ name ++ "\" already exists"
  | missingRule name => "Type \"" ++ name ++ "\" must have a validator function"
  | invalidPattern path => "Invalid pattern for field \"" ++ path ++ "\": " ++ outsideReason
  | invalidConstraint path key problem =>
    "Invalid constraint \"" ++ key ++ "\" for field \"" ++ path ++ "\": " ++ problem.message
  | arrayArity path found =>
    "Array schema at \"" ++ path ++ "\" must declare exactly one element, found " ++ toString found
  | invalidDefinition path problem =>
    "Invalid schema definition at \"" ++ path ++ "\": " ++ problem.message

end Conform
