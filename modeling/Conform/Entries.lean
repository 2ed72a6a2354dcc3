import Conform.Path

/-!
# Flat entries and nested documents

A log of entries `path ↦ value` describes a nested document: each entry is written in turn, later
ones over earlier ones.  This file defines:

* `Entries` and `Entries.get?`: the log and the latest value under a path;
* `Json.place`: what a value leaves behind where another value stands;
* `Json.writeAt`: a document after one entry, containers on the way made as needed;
* `rebuild`: the document of a log;
* `flatten`: the leaves of a document as a log.
-/

namespace Conform

/-- A log of written values, in order. -/
abbrev Entries := List (String × Json)

/-- The latest value written under a path. -/
def Entries.get? (entries : Entries) (path : String) : Option Json :=
  Json.lookup path entries.reverse

/-! ## From entries to a document -/

namespace Json

/-- The members of the first list, then those of the second under keys that the first lacks. -/
def mergeMembers (members : List (String × Json)) : List (String × Json) → List (String × Json)
  | [] => members
  | (key, value) :: rest =>
    match lookup key members with
    | some _ => mergeMembers members rest
    | none => mergeMembers (members ++ [(key, value)]) rest

/-- Writes a value over another. -/
def place (old new : Json) : Json :=
  match old, new with
  -- The empty container that is written ahead of its parts may not undo parts that are there.
  | object members, object incoming => object (mergeMembers members incoming)
  | array items, array [] => array items
  | _, new => new

/-- The members of an object; anything else has none. -/
def membersOrNone : Json → List (String × Json)
  | object members => members
  | _ => []

/-- The items of an array, filled with `null` up to a position; anything else has none. -/
def itemsUpTo (position : Nat) : Json → List Json
  | array items => items ++ List.replicate (position + 1 - items.length) null
  | _ => List.replicate (position + 1) null

/-- Writes a value at the end of the steps. -/
def writeAt (old : Json) : List Segment → Json → Json
  | [], value => place old value
  -- A container of the wrong kind on the way has no parts, so it gives place to a new one.
  | .key name :: rest, value =>
    let members := old.membersOrNone
    object (insert name (writeAt ((lookup name members).getD null) rest value) members)
  | .index position :: rest, value =>
    let items := old.itemsUpTo position
    array (items.set position (writeAt (items[position]?.getD null) rest value))

end Json

/-- The document after one more entry. -/
def writeEntry (document : Json) (entry : String × Json) : Json :=
  document.writeAt (tokenize entry.1) entry.2

/-- The nested document of a log, starting from the empty object. -/
def rebuild (entries : Entries) : Json := entries.foldl writeEntry (.object [])

/-! ## From a document to entries -/

mutual

/-- The leaves of a document under a path: its scalars and empty containers. -/
def flattenAt (path : String) : Json → Entries
  | .object (member :: rest) => flattenMembers path (member :: rest)
  | .array (item :: rest) => flattenItems path 0 (item :: rest)
  | leaf => [(path, leaf)]

/-- The leaves of members. -/
def flattenMembers (path : String) : List (String × Json) → Entries
  | [] => []
  | (key, value) :: rest => flattenAt (Path.child path key) value ++ flattenMembers path rest

/-- The leaves of items, the first of them at a position. -/
def flattenItems (path : String) (position : Nat) : List Json → Entries
  | [] => []
  | item :: rest =>
    flattenAt (Path.item path position) item ++ flattenItems path (position + 1) rest

end

/-- The leaves of a document.  Names are taken to hold neither point nor bracket. -/
def flatten (document : Json) : Entries := flattenAt "" document

end Conform
