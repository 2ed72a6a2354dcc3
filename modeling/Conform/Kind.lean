import Conform.Json.Basic

/-!
# Built-in kinds

The nine kinds of values that a schema can ask for without further registration.  This file
defines:

* `Kind` and `Kind.all`, in the order in which the kinds are registered;
* `Kind.name`, `Kind.ofName?`: the written name, and the kind of exactly that name;
* `Kind.ofJson?`: a kind as data;
* `Kind.key`, `Kind.shortName?`: the names under which a kind is found;
* `Kind.noun`: how messages call a value of the kind.
-/

namespace Conform

/-- A built-in kind of values. -/
inductive Kind where
  | string
  | boolean
  | number
  | int32
  | decimal128
  | double
  | date
  | object
  | array
  deriving DecidableEq, Repr

namespace Kind

/-- All kinds, in order of registration. -/
def all : List Kind :=
  [.string, .boolean, .number, .int32, .decimal128, .double, .date, .object, .array]

theorem mem_all (kind : Kind) : kind ∈ all := by cases kind <;> decide

def name : Kind → String
  | string => "String"
  | boolean => "Boolean"
  | number => "Number"
  | int32 => "Int32"
  | decimal128 => "Decimal128"
  | double => "Double"
  | date => "Date"
  | object => "Object"
  | array => "Array"

/-- The kind whose written name is exactly this text. -/
def ofName? (text : String) : Option Kind := all.find? (·.name == text)

/-- A kind as data: its name, or an object whose only member has that name and no value. -/
def ofJson? : Json → Option Kind
  | .string text => ofName? text
  | .object [(text, .null)] => ofName? text
  | _ => none

/-- The name under which the kind is registered. -/
def key : Kind → String
  | string => "string"
  | boolean => "boolean"
  | number => "number"
  | int32 => "int32"
  | decimal128 => "decimal128"
  | double => "double"
  | date => "date"
  | object => "object"
  | array => "array"

/-- The second, shorter name under which some kinds are found. -/
def shortName? : Kind → Option String
  | string => some "str"
  | boolean => some "bool"
  | number => some "num"
  | int32 => some "int"
  | decimal128 => some "decimal"
  | double | date | object | array => none

/-- How a message calls a value of the kind. -/
def noun : Kind → String
  | string => "a string"
  | boolean => "a boolean"
  | number => "a number"
  | int32 => "an integer"
  | decimal128 => "a decimal"
  | double => "a double"
  | date => "a valid date"
  | object => "an object"
  | array => "an array"

def isNumeric : Kind → Bool
  | number | int32 | decimal128 | double => true
  | string | boolean | date | object | array => false

end Kind

end Conform
