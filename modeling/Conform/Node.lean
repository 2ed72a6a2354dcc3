import Conform.Field

/-!
# Schema trees

A definition with all shorthands spelled out and all types found is a tree of fields, objects and
arrays.  This file defines:

* `Node`, and `Node.isField`;
* `isPassthrough`: an object without fields of its own keeps members that it does not declare;
* `Node.fieldCount`;
* `Node.find?`: the node at a written path, with `[]` for the items of an array.
-/

namespace Conform

/-- A node of a schema tree; the members of an object are in order of declaration. -/
inductive Node where
  | field (field : Field)
  | object (members : List (String × Node))
  | array (item : Node)

namespace Node

def isField : Node → Bool
  | field _ => true
  | object _ | array _ => false

def isObject : Node → Bool
  | object _ => true
  | field _ | array _ => false

def field? : Node → Option Field
  | field f => some f
  | object _ | array _ => none

def members? : Node → Option (List (String × Node))
  | object members => some members
  | field _ | array _ => none

def item? : Node → Option Node
  | array item => some item
  | field _ | object _ => none

end Node

/-- Whether an object with these members keeps those that it does not declare: none is a field. -/
def isPassthrough (members : List (String × Node)) : Bool := !members.any (·.2.isField)

namespace Node

/-! ## Counting -/

mutual

/-- The number of fields at or below a node. -/
def fieldCount : Node → Nat
  | field _ => 1
  | object members => memberFieldCount members
  | array item => item.fieldCount

def memberFieldCount : List (String × Node) → Nat
  | [] => 0
  | (_, node) :: rest => node.fieldCount + memberFieldCount rest

end

/-! ## Finding -/

def pieces : List Char → List (List Char)
  | [] => [[]]
  | c :: rest =>
    match pieces rest with
    | piece :: more => if c = '.' then [] :: piece :: more else (c :: piece) :: more
    | [] => [[c]]

/-- What stands before the first pair of brackets. -/
def beforeBrackets : List Char → List Char
  | [] => []
  | '[' :: ']' :: _ => []
  | c :: rest => c :: beforeBrackets rest

/-- How many pairs of brackets stand in a text. -/
def bracketPairs : List Char → Nat
  | [] => 0
  | '[' :: ']' :: rest => bracketPairs rest + 1
  | _ :: rest => bracketPairs rest

def itemAt? : (depth : Nat) → Node → Option Node
  | 0, node => some node
  | depth + 1, node => node.item?.bind (itemAt? depth)

/-- The node that a piece of a path leads to: a member, or an item below it. -/
def step? (node : Node) (piece : List Char) : Option Node := do
  let member ← Json.lookup (String.ofList (beforeBrackets piece)) (← node.members?)
  itemAt? (bracketPairs piece) member

/-- The node at a written path below an object. -/
def find? (root : Node) (path : String) : Option Node :=
  (pieces path.toList).foldlM step? root

end Node

end Conform
