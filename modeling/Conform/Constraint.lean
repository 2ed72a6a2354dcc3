import Conform.Date.Reader
import Conform.Definition

/-!
# Constraints

A constraint is one keyed member of a field definition, in any of its shorthand forms.  This file
defines:

* `ConstraintKey`: what a key speaks about, whatever its spelling;
* `readClause`: the value and the message of the forms `v`, `[v]`, `[v, m]` and one with `flag`;
* `readBound`, `readLength`, `readPatternText`, `readAllowed`: the clauses of each facet;
* `Facets.apply`: facets after one more constraint.
-/

namespace Conform

/-- What a constraint speaks about. -/
inductive ConstraintKey where
  | coerce
  | required
  | min
  | max
  | minLength
  | maxLength
  | pattern
  | allowed
  | trim
  | lowercase
  | uppercase
  | message
  | default
  deriving DecidableEq, Repr

/-- The constraint that a key names; lengths have three spellings. -/
def ConstraintKey.ofText? : String → Option ConstraintKey
  | "coerce" => some .coerce
  | "required" => some .required
  | "min" => some .min
  | "max" => some .max
  | "minLength" | "min_length" | "minlength" => some .minLength
  | "maxLength" | "max_length" | "maxlength" => some .maxLength
  | "match" => some .pattern
  | "enum" => some .allowed
  | "trim" => some .trim
  | "lowercase" => some .lowercase
  | "uppercase" => some .uppercase
  | "message" => some .message
  | "default" => some .default
  | _ => none

/-! ## Shorthand forms -/

/-- The message of a clause: a string, or `null` for none. -/
def readMessage : Json → Except ConstraintProblem (Option String)
  | .null => .ok none
  | .string message => .ok (some message)
  | _ => .error .messageNotString

def memberMessage (members : List (String × Json)) : Except ConstraintProblem (Option String) :=
  readMessage ((Json.lookup "msg" members).getD .null)

/-- The value and the message of a clause, in any of its forms. -/
def readClause (json : Json) : Except ConstraintProblem (Clause Json) :=
  match json with
  | .array [value] => .ok ⟨value, none⟩
  | .array [value, message] => do return ⟨value, ← readMessage message⟩
  | .array _ => .error .notPair
  | .object members =>
    match Json.lookup "flag" members with
    | some value => do return ⟨value, ← memberMessage members⟩
    -- An object without a flag is the value itself.
    | none => .ok ⟨json, none⟩
  | _ => .ok ⟨json, none⟩

def readFlag (json : Json) : Except ConstraintProblem Bool :=
  match json.bool? with
  | some b => .ok b
  | none => .error .notBoolean

def readRequired (json : Json) : Except ConstraintProblem (Clause Bool) := do
  let clause ← readClause json
  return ⟨← readFlag clause.value, clause.message⟩

/-- The instant that a date in a definition denotes. -/
def definedInstant? : Json → Option Instant
  | .string text => Instant.read? text
  | .number n => Instant.ofMillis? n.toBinary64
  | _ => none

/-- The bound that a value denotes, on dates or on numbers. -/
def bound? (dated : Bool) (json : Json) : Option Bound :=
  if dated then (definedInstant? json).map .date else json.binary64?.map .number

def readBound (dated : Bool) (json : Json) : Except ConstraintProblem (Clause Bound) := do
  let clause ← readClause json
  match bound? dated clause.value with
  | some bound => return ⟨bound, clause.message⟩
  | none => throw (if dated then .notDate clause.value else .notNumber clause.value)

/-- The greatest length that can be asked for. -/
def greatestLength : Nat := 2 ^ 64 - 1

/-- The length that a value denotes. -/
def length? (json : Json) : Option Nat :=
  match json.binary64? with
  | some x =>
    -- A length beyond the greatest one is taken for the greatest one.
    if x.isIntegral ∧ 0 ≤ x.toInt then some (Nat.min x.toInt.toNat greatestLength) else none
  | none => none

def readLength (json : Json) : Except ConstraintProblem (Clause Nat) := do
  let clause ← readClause json
  match length? clause.value with
  | some n => return ⟨n, clause.message⟩
  | none => throw (.notLength clause.value)

/-- A clause of the text of a pattern. -/
def readPatternText (json : Json) : Except ConstraintProblem (Clause String) := do
  -- Here an object may also hold the value under `value`, which goes before `flag`.
  let clause ← match json.get? "value" with
    | some value => do pure ⟨value, ← memberMessage (json.members?.getD [])⟩
    | none => readClause json
  match clause.value.string? with
  | some text => return ⟨text, clause.message⟩
  | none => throw .notPattern

/-- A clause of allowed values. -/
def readAllowed : Json → Except ConstraintProblem (Clause (List Json))
  -- Any other list of two is a list of values itself.
  | .array [.array values, .string message] => .ok ⟨values, some message⟩
  | .array values => .ok ⟨values, none⟩
  | .object members =>
    match Json.lookup "values" members with
    | some (.array values) => do return ⟨values, ← memberMessage members⟩
    | _ => .error .notList
  | _ => .error .notList

def readText (json : Json) : Except ConstraintProblem String :=
  match json.string? with
  | some text => .ok text
  | none => .error .notString

/-! ## Facets -/

/-- Why a constraint does not hold of any facet. -/
inductive ConstraintError where
  | problem (problem : ConstraintProblem)
  | badPattern

def compileClause (clause : Clause String) : Except ConstraintError (Clause Pattern) :=
  match Pattern.compile? clause.value with
  | some pattern => .ok ⟨pattern, clause.message⟩
  | none => .error .badPattern

def reading (result : Except ConstraintProblem α) : Except ConstraintError α :=
  result.mapError .problem

/-- Facets after one more constraint; the later of two on the same facet stands. -/
def Facets.apply (dated : Bool) (facets : Facets) (key : ConstraintKey) (json : Json) :
    Except ConstraintError Facets :=
  match key with
  | .coerce => do return { facets with coerce := ← reading (readFlag json) }
  | .required => do return { facets with required := some (← reading (readRequired json)) }
  | .min => do return { facets with min := some (← reading (readBound dated json)) }
  | .max => do return { facets with max := some (← reading (readBound dated json)) }
  | .minLength => do return { facets with minLength := some (← reading (readLength json)) }
  | .maxLength => do return { facets with maxLength := some (← reading (readLength json)) }
  | .pattern => do
    let clause ← reading (readPatternText json)
    return { facets with pattern := some (← compileClause clause) }
  | .allowed => do return { facets with allowed := some (← reading (readAllowed json)) }
  | .trim => do return { facets with trim := ← reading (readFlag json) }
  | .lowercase => do return { facets with lowercase := ← reading (readFlag json) }
  | .uppercase => do return { facets with uppercase := ← reading (readFlag json) }
  | .message => do return { facets with message := some (← reading (readText json)) }
  | .default => .ok { facets with default := some (.fixed json) }

/-- A value in the form in which coercing date fields write it, if it denotes a date. -/
def canonicalDate (json : Json) : Json :=
  match definedInstant? json with
  | some t => .string t.write
  | none => json

/-- Allowed values in the form in which coercing date fields write theirs. -/
def Facets.withCanonicalDates (facets : Facets) : Facets :=
  { facets with allowed := facets.allowed.map fun clause =>
      ⟨clause.value.map canonicalDate, clause.message⟩ }

end Conform
