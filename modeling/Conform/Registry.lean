import Conform.Kind.Rule
import Conform.SchemaError

/-!
# The registry of types

A registry finds types by name, without regard to case and to blanks around the name.  It starts
with the built-in kinds and grows by registration, which never changes what a name already means.
This file defines:

* `TypeRef`: how a definition refers to a type;
* `Registry`, with `Registry.builtin`, `find?`, `resolve`, `contains` and `typeNames`;
* `Registration`: what a new type is made of;
* `registerType`: the new type, listed in the registry, or the reason of a refusal;
* `Registry.answer`, `Registry.register`: what becomes of a registry that is asked for a new type.
-/

namespace Conform

/-- A reference to a type: a built-in kind, or a name. -/
inductive TypeRef where
  | kind (kind : Kind)
  | name (text : String)
  deriving DecidableEq, Repr

/-- The key of a name: blanks around it and its case do not matter. -/
def typeKey (name : String) : String := toLower (trim name)

namespace TypeRef

/-- The key under which the referenced type is looked up. -/
def key : TypeRef → String
  | .kind k => k.key
  | .name text => typeKey text

def text : TypeRef → String
  | .kind k => k.name
  | .name text => text

end TypeRef

/-- Types by key; a type is listed under its own key and under each of its aliases. -/
structure Registry where
  entries : List (String × FieldType)

namespace Registry

/-- The entries of a kind: its key, and its shorter name if it has one. -/
def kindEntries (kind : Kind) : List (String × FieldType) :=
  (kind.key :: kind.shortName?.toList).map fun key => (key, .builtin kind)

def builtin : Registry := ⟨Kind.all.flatMap kindEntries⟩

def find? (registry : Registry) (key : String) : Option FieldType :=
  Json.lookup key registry.entries

def resolve (registry : Registry) (ref : TypeRef) : Except SchemaError FieldType :=
  match registry.find? ref.key with
  | some type => .ok type
  | none => .error (.unknownType ref.key)

def contains (registry : Registry) (name : String) : Bool :=
  (registry.find? (typeKey name)).isSome

/-- The names of all types as given, in order. -/
def typeNames (registry : Registry) : List String :=
  ((registry.entries.filter fun (key, type) => key == type.info.key).map
    (·.2.info.name)).mergeSort

end Registry

/-- What a new type is made of besides its name. -/
structure Registration where
  rule : Option Rule := none
  base : Option Kind := none
  secondName : Option String := none
  coerce : Option Bool := none
  message : Option String := none

namespace Registration

/-- The key of the second name, if that says more than the name. -/
def secondKey? (registration : Registration) (key : String) : Option String :=
  (registration.secondName.map typeKey).filter fun second => !second.isEmpty && second != key

/-- The new type under a trimmed name. -/
def toType (registration : Registration) (name : String) (rule : Rule) : FieldType :=
  let key := toLower name
  ⟨⟨key, name, registration.base, (registration.secondKey? key).toList,
    registration.coerce.getD true, registration.message.getD ("Field must be a valid " ++ name)⟩,
    rule⟩

end Registration

namespace Registry

/-- Lists a type under a key, in place of what is listed there. -/
def insert (registry : Registry) (key : String) (type : FieldType) : Registry :=
  ⟨Json.insert key type registry.entries⟩

end Registry

/-- A computation that changes a registry and may refuse; what it has changed by then stays
changed. -/
abbrev Registering := ExceptT SchemaError (StateM Registry)

/-- Refuses a key that is taken, under the name that the refusal shows. -/
def demandFree (key shown : String) : Registering Unit := do
  if ((← get).find? key).isSome then throw (.duplicateType shown)

/-- Registers a type: the name must not be blank nor taken, there must be a rule, and the second
name must not be taken. -/
def registerType (name : String) (registration : Registration) : Registering FieldType := do
  let name := trim name
  if name.isEmpty then throw .namelessType
  let key := toLower name
  demandFree key name
  let some rule := registration.rule | throw (.missingRule name)
  let second := registration.secondKey? key
  if let some second := second then demandFree second second
  let type := registration.toType name rule
  -- From here on nothing is refused, so a refusal finds the registry as it was.
  if let some second := second then modify (·.insert second type)
  modify (·.insert key type)
  return type

namespace Registry

/-- The answer to a registration, with the registry after it. -/
def answer (registry : Registry) (name : String) (registration : Registration) :
    Except SchemaError FieldType × Registry :=
  StateT.run (ExceptT.run (registerType name registration)) registry

/-- The new type and the registry with it, or the reason of a refusal. -/
def register (registry : Registry) (name : String) (registration : Registration) :
    Except SchemaError (FieldType × Registry) :=
  match registry.answer name registration with
  | (.ok type, next) => .ok (type, next)
  | (.error reason, _) => .error reason

end Registry

end Conform
