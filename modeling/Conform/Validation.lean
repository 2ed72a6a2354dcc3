import Conform.Entries
import Conform.Node
import Conform.Options

/-!
# Checking documents

A document is checked against a schema tree member by member in order of declaration, and stops at
the first violation.  Each value that passes is written into a log under its path, containers before
what they hold.  This file defines:

* `Draws` and `Run`: a computation that may stop at a violation and draws from default generators;
* `Default.draw`: the next value of a default;
* `Field.check`, `Node.check`: the log of a field and of a tree;
* `checkRoot`: the log of a whole document.
-/

namespace Conform

/-! ## Runs -/

/-- How many values have been drawn from each generator. -/
abbrev Draws := Nat → Nat

/-- A computation that draws from generators and may stop at a violation; what was drawn before
stays drawn. -/
abbrev Run := ExceptT Violation (StateM Draws)

def Default.draw : Default → StateM Draws Json
  | fixed value => pure value
  | drawn generator outputs => do
    let draws ← get
    set (fun g => if g = generator then draws g + 1 else draws g : Draws)
    return outputs (draws generator)

/-! ## Nodes -/

/-- What a field writes where its document holds nothing. -/
def Field.checkAbsent (tolerant : Bool) (field : Field) (path : String) : Run Entries :=
  match field.facets.default, field.facets.coerce with
  -- A default goes into the log as it is, without the checks of a given value.
  | some default, true => do return [(path, ← default.draw)]
  | _, _ =>
    if field.facets.isRequired && !tolerant then
      throw (field.facets.requiredViolation path .null)
    else return []

/-- What a field writes for a value. -/
def Field.checkPresent (field : Field) (path : String) (value : Json) :
    Except Violation Json := do
  -- A required field may not be given empty, but what its rule makes of a value may be empty.
  if field.facets.isRequired && field.isEmptyValue value then
    throw (field.facets.requiredViolation path value)
  let output ← field.applyRule value path
  if !field.isEmptyValue output then field.facets.checkValue output path
  return output

/-- The log of a field. -/
def Field.check (tolerant : Bool) (field : Field) (path : String) : Option Json → Run Entries
  | none => field.checkAbsent tolerant path
  | some value => do
    let output ← (field.checkPresent path value : Except Violation Json)
    return [(path, output)]

/-- The members of a document that are not declared. -/
def undeclared (members : List (String × Node)) (given : List (String × Json)) :
    List (String × Json) :=
  given.filter fun (key, _) => !members.any (·.1 == key)

/-- What an object writes for itself ahead of its members: what it keeps of the members that are not
declared, or an empty object. -/
def objectEntries (members : List (String × Node)) (path : String) :
    Option (List (String × Json)) → Entries
  | some given =>
    [(path, .object (if isPassthrough members then undeclared members given else []))]
  | none => []

/-- The violation of a value that is not of a container's kind. -/
def shapeViolation (kind : Kind) (path : String) (value : Json) : Violation :=
  ⟨.mistyped kind, "Field \"" ++ path ++ "\" must be " ++ kind.noun, path, value⟩

/-- The log of items, the first of them at a position, given the log of each. -/
def checkItems (check : String → Json → Run Entries) (path : String) :
    (position : Nat) → List Json → Run Entries
  | _, [] => return []
  | position, item :: rest => do
    let first ← check (Path.item path position) item
    return first ++ (← checkItems check path (position + 1) rest)

/-- The log of an item of an array. -/
def checkItem (node : Node) (check : Run Entries) (path : String) (item : Json) : Run Entries :=
  -- The members of an object are not looked for in an item that is none.
  if node.isObject && !item.isObject then
    if item.isEmpty then return [(path, item)] else throw (shapeViolation .object path item)
  else check

mutual

/-- The log of a tree for a value at a path. -/
def Node.check (tolerant : Bool) : Node → (path : String) → Option Json → Run Entries
  | .field field, path, value => field.check tolerant path value
  | .object members, path, value => do
    -- What is no object counts as an object that is absent.
    let given := value.bind Json.members?
    let rest ← checkMembers tolerant members path given
    return objectEntries members path given ++ rest
  | .array _, _, none => return []
  | .array item, path, some value =>
    if value.isEmpty then return [(path, value)]
    else match value with
      | .array items => do
        let rest ← checkItems (fun path element =>
          checkItem item (item.check tolerant path (some element)) path element) path 0 items
        return (path, .array []) :: rest
      | value => throw (shapeViolation .array path value)

/-- The log of declared members, taken from the members of a document if it is an object. -/
def checkMembers (tolerant : Bool) : List (String × Node) → (path : String) →
    Option (List (String × Json)) → Run Entries
  | [], _, _ => return []
  | (name, node) :: rest, path, given => do
    let first ← node.check tolerant (Path.child path name) (given.bind (Json.lookup name))
    return first ++ (← checkMembers tolerant rest path given)

end

/-- The log of a whole document. -/
def checkRoot (tolerant : Bool) (members : List (String × Node)) (document : Json) :
    Run Entries := do
  let given := document.members?
  let rest ← checkMembers tolerant members "" given
  -- The log is read over an empty object, so the root need not write one.
  return (if isPassthrough members then objectEntries members "" given else []) ++ rest

end Conform
