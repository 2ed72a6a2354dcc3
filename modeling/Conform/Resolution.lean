import Conform.Constraint
import Conform.Node
import Conform.Notice

/-!
# From definitions to schema trees

Resolution walks a definition once, depth first: it finds every type, spells out every shorthand and
compiles every pattern.  Whatever is wrong with a definition shows here.  This file defines:

* `resolveConstraints`, `resolveField`: the field that a field definition states;
* `resolveNode`: the tree that a definition states;
* `resolve`: the members of a root, which must be an object.
-/

namespace Conform

/-! ## Fields -/

/-- An error of a constraint, with its place. -/
def ConstraintError.located (path key : String) : ConstraintError → SchemaError
  | problem p => .invalidConstraint path key p
  | badPattern => .invalidPattern path

/-- The facets that constraints state, one after the other. -/
def resolveConstraints (dated : Bool) (path : String) :
    List (String × Json) → Facets → Noted SchemaError Facets
  | [], facets => pure facets
  | (key, json) :: rest, facets =>
    match ConstraintKey.ofText? key with
    | some facet => do
      let facets ← Noted.ofExcept
        ((facets.apply dated facet json).mapError (ConstraintError.located path key))
      resolveConstraints dated path rest facets
    -- A constraint that is not known is passed over, which is no error.
    | none => do
      Noted.note (.ignoredConstraint key path)
      resolveConstraints dated path rest facets

/-- What a definition states besides its constraints stands over them. -/
def FieldDefinition.override (definition : FieldDefinition) (facets : Facets) : Facets :=
  { facets with
    default := definition.default.or facets.default
    check := (definition.check.map CheckForm.toClause).or facets.check
    pattern := definition.pattern.or facets.pattern }

def FieldType.isDated (type : FieldType) : Bool := type.info.base == some .date

/-- A type without facets, coercing when both the options and the type do. -/
def bareFacets (options : Options) (type : FieldType) : Facets :=
  { coerce := options.coerce && type.info.coerce }

def resolveField (options : Options) (registry : Registry) (path : String)
    (definition : FieldDefinition) : Noted SchemaError Field := do
  let type ← registry.resolve definition.type
  let facets ← resolveConstraints type.isDated path definition.constraints
    (bareFacets options type)
  -- What is written is a canonical date, so that is what allowed values are compared with.
  let facets := if type.isDated && facets.coerce then facets.withCanonicalDates else facets
  return ⟨type, definition.override facets⟩

/-! ## Trees -/

/-- Whether a name can stand in a path. -/
def isPathName (name : String) : Bool :=
  !name.isEmpty && !name.toList.any fun c => c == '.' || c == '[' || c == ']'

/-- Refuses a name that cannot stand in a path or that is taken. -/
def demandName (path name : String) (taken : List String) : Except SchemaError Unit :=
  if !isPathName name then .error (.invalidDefinition (Path.child path name) .badName)
  else if taken.contains name then
    .error (.invalidDefinition (Path.child path name) .repeatedName)
  else .ok ()

mutual

/-- The tree that a definition states at a path. -/
def resolveNode (options : Options) (registry : Registry) (path : String) :
    Definition → Noted SchemaError Node
  | .type ref => do
    let type ← registry.resolve ref
    return .field ⟨type, bareFacets options type⟩
  | .field definition => do return .field (← resolveField options registry path definition)
  | .object members => do return .object (← resolveMembers options registry path [] members)
  | .array [item] => do return .array (← resolveNode options registry (path ++ "[]") item)
  | .array items => Noted.ofExcept (.error (.arrayArity path items.length))

/-- The members that definitions state; `taken` holds the names before them. -/
def resolveMembers (options : Options) (registry : Registry) (path : String)
    (taken : List String) : List (String × Definition) → Noted SchemaError (List (String × Node))
  | [] => pure []
  | (name, definition) :: rest => do
    demandName path name taken
    let node ← resolveNode options registry (Path.child path name) definition
    return (name, node) :: (← resolveMembers options registry path (name :: taken) rest)

end

/-- The members of the root that a definition states. -/
def resolve (options : Options) (registry : Registry) :
    Definition → Noted SchemaError (List (String × Node))
  | .object members => resolveMembers options registry "" [] members
  | _ => Noted.ofExcept (.error (.invalidDefinition "" .rootNotObject))

end Conform
