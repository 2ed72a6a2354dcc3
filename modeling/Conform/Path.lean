import Conform.Json.Basic
import Conform.Text.Ascii

/-!
# Paths into documents

A path is written as member names joined by points, with item numbers in brackets: `tags[0].id`.
This file defines:

* `Segment`: one step, a member name or an item number;
* `tokenize`: the steps of a written path, defined for every text;
* `Path.child`, `Path.item`: a written path extended by one step;
* `Path.render`: the written form of steps;
* `Json.at?`: the part of a document that steps lead to.
-/

namespace Conform

/-- One step into a document. -/
inductive Segment where
  | key (name : String)
  | index (position : Nat)
  deriving DecidableEq, Repr

/-! ## Reading -/

/-- A decimal number with nothing after it, at least one digit. -/
def readNat? : List Char → (seen : Option Nat) → Option Nat
  | [], seen => seen
  | c :: rest, seen =>
    match digit? c with
    | some d => readNat? rest (some (seen.getD 0 * 10 + d))
    | none => none

/-- The item number that the contents of brackets denote. -/
def readIndex? (text : List Char) : Option Nat :=
  -- The notation of unsigned numbers allows a plus sign.
  let digits := match text with
    | '+' :: rest => rest
    | text => text
  match readNat? digits none with
  | some n => if n < 2 ^ 64 then some n else none
  | none => none

/-- The step that the contents of brackets denote. -/
def bracketed (contents : List Char) : Segment :=
  match readIndex? contents with
  | some n => .index n
  | none => .key (String.ofList contents)

/-- Where the reading of a path stands; characters seen so far are kept in reverse. -/
inductive PathScan where
  | between
  | inKey (seen : List Char)
  | inBracket (seen : List Char)

/-- The steps of the rest of a path. -/
def scanPath : PathScan → List Char → List Segment
  | .between, [] => []
  | .inKey seen, [] => [.key (String.ofList seen.reverse)]
  -- A bracket that is never closed holds all that is left.
  | .inBracket seen, [] => [bracketed seen.reverse]
  | .between, c :: rest =>
    -- Points only separate: several in a row are as good as one.
    if c = '.' then scanPath .between rest
    else if c = '[' then scanPath (.inBracket []) rest
    else scanPath (.inKey [c]) rest
  | .inKey seen, c :: rest =>
    if c = '.' then .key (String.ofList seen.reverse) :: scanPath .between rest
    else if c = '[' then .key (String.ofList seen.reverse) :: scanPath (.inBracket []) rest
    else scanPath (.inKey (c :: seen)) rest
  | .inBracket seen, c :: rest =>
    if c = ']' then bracketed seen.reverse :: scanPath .between rest
    else scanPath (.inBracket (c :: seen)) rest

/-- The steps of a written path. -/
def tokenize (path : String) : List Segment := scanPath .between path.toList

/-! ## Writing -/

namespace Path

/-- The path of a member: a point joins it to what stands before, if anything does. -/
def child (path name : String) : String := if path.isEmpty then name else path ++ "." ++ name

def item (path : String) (position : Nat) : String :=
  path ++ "[" ++ String.ofList (Nat.toDigits 10 position) ++ "]"

def extend (path : String) : Segment → String
  | .key name => child path name
  | .index position => item path position

/-- The written form of steps. -/
def render (segments : List Segment) : String := segments.foldl extend ""

end Path

/-! ## Walking -/

namespace Json

/-- The part of a document one step away. -/
def step? (document : Json) : Segment → Option Json
  | .key name => document.get? name
  | .index position => document.items?.bind (·[position]?)

/-- The part of a document that steps lead to. -/
def at? (document : Json) : List Segment → Option Json
  | [] => some document
  | segment :: rest => (document.step? segment).bind (·.at? rest)

end Json

end Conform
