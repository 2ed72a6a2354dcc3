import Conform.Json.Number

/-!
# JSON documents

Objects keep their members in order; equality of documents ignores that order.  This file defines:

* `Json`: the documents;
* `lookup` and `insert` on member lists: an inserted key keeps its first position;
* `Json.same`: equality of documents, blind to the order of members;
* `Json.isEmpty`: `null` and the empty string;
* `Json.get?`: the member of an object.
-/

namespace Conform

/-- A JSON document; object members are listed in order, each key once. -/
inductive Json where
  | null
  | bool (value : Bool)
  | number (value : Json.Number)
  | string (value : String)
  | array (items : List Json)
  | object (members : List (String × Json))
  deriving Inhabited

namespace Json

/-! ## Members -/

def lookup (key : String) : List (String × α) → Option α
  | [] => none
  | (k, v) :: rest => if k = key then some v else lookup key rest

/-- Writes a value under a key: in place when the key is listed, at the end when it is not. -/
def insert (key : String) (value : α) : List (String × α) → List (String × α)
  | [] => [(key, value)]
  | (k, v) :: rest => if k = key then (k, value) :: rest else (k, v) :: insert key value rest

/-- The members with the pairs written one after the other into an empty list. -/
def membersOf (pairs : List (String × α)) : List (String × α) :=
  pairs.foldl (fun members (key, value) => insert key value members) []

@[simp] theorem lookup_nil (key : String) : lookup key ([] : List (String × α)) = none := rfl

theorem lookup_insert_self (key : String) (value : α) (members : List (String × α)) :
    lookup key (insert key value members) = some value := by
  induction members with
  | nil => simp [insert, lookup]
  | cons m rest ih =>
    obtain ⟨k, v⟩ := m
    by_cases h : k = key <;> simp [insert, lookup, h, ih]

theorem lookup_insert_of_ne {key other : String} (h : other ≠ key) (value : α)
    (members : List (String × α)) :
    lookup other (insert key value members) = lookup other members := by
  induction members with
  | nil => simp [insert, lookup, h.symm]
  | cons m rest ih =>
    obtain ⟨k, v⟩ := m
    by_cases hk : k = key
    · subst hk
      simp [insert, lookup, h.symm]
    · simp [insert, lookup, hk, ih]

/-! ## Equality of documents -/

mutual

/-- Equality of documents: numbers by form and value, objects without regard to member order. -/
def same : Json → Json → Bool
  | null, null => true
  | bool a, bool b => a == b
  | number a, number b => a.same b
  | string a, string b => a == b
  | array as, array bs => sameItems as bs
  | object as, object bs => as.length == bs.length && sameMembers as bs
  | _, _ => false

def sameItems : List Json → List Json → Bool
  | [], [] => true
  | a :: as, b :: bs => same a b && sameItems as bs
  | _, _ => false

/-- Every member of the first list is listed with an equal value in the second. -/
def sameMembers : List (String × Json) → List (String × Json) → Bool
  | [], _ => true
  | (key, a) :: as, bs =>
    (match lookup key bs with
      | some b => same a b
      | none => false) && sameMembers as bs

end

/-! ## Views -/

/-- `null` and the empty string are empty. -/
def isEmpty : Json → Bool
  | null => true
  | string s => s.isEmpty
  | _ => false

def members? : Json → Option (List (String × Json))
  | object members => some members
  | _ => none

def items? : Json → Option (List Json)
  | array items => some items
  | _ => none

def string? : Json → Option String
  | string s => some s
  | _ => none

def bool? : Json → Option Bool
  | bool b => some b
  | _ => none

def binary64? : Json → Option Binary64
  | number n => some n.toBinary64
  | _ => none

/-- The member of an object under a key. -/
def get? (document : Json) (key : String) : Option Json :=
  document.members?.bind (lookup key)

def isObject (document : Json) : Bool := document.members?.isSome

end Json

end Conform
