import Conform.Pattern.CharSet

/-!
# Pattern expressions and matching

A pattern is searched for anywhere in a text.  Matching follows all ways through the pattern at
once, character by character, so its time is linear in the text.  This file defines:

* `Assertion`: conditions on a position, and `Assertion.holds`;
* `PatternExpr`: the expressions;
* `PatternExpr.matchesEmpty`: matching nothing at a position;
* `PatternExpr.step`: what is left to match after a character;
* `PatternExpr.search`: occurring somewhere in a text;
* `PatternExpr.weight`: the bytes that a compiled automaton takes for the expression.
-/

namespace Conform

/-! ## Positions -/

/-- The characters around a position. -/
structure Position where
  before : Option Char
  after : Option Char

/-- A condition on a position; word conditions come with word characters of all of the character
standard or of ASCII only. -/
inductive Assertion where
  | textStart
  | textEnd
  | lineStart
  | lineEnd
  | carriageLineStart
  | carriageLineEnd
  | wordBoundary (ascii : Bool)
  | notWordBoundary (ascii : Bool)
  | wordStart (ascii : Bool)
  | wordEnd (ascii : Bool)
  | wordStartHalf (ascii : Bool)
  | wordEndHalf (ascii : Bool)
  deriving DecidableEq, Repr

namespace Assertion

/-- A word character of ASCII. -/
def isAsciiWord (c : Char) : Bool := c.isAlphanum || c == '_'

/-- Whether there is a character and it is a word character. -/
def wordAt (ascii : Bool) : Option Char → Bool
  | some c => if ascii then isAsciiWord c else Property.isWord c
  | none => false

def holds (p : Position) : Assertion → Bool
  | textStart => p.before.isNone
  | textEnd => p.after.isNone
  | lineStart => p.before.isNone || p.before == some '\n'
  | lineEnd => p.after.isNone || p.after == some '\n'
  | carriageLineStart =>
    p.before.isNone || p.before == some '\n' ||
      (p.before == some '\r' && p.after != some '\n')
  | carriageLineEnd =>
    p.after.isNone || p.after == some '\r' || (p.after == some '\n' && p.before != some '\r')
  | wordBoundary a => wordAt a p.before != wordAt a p.after
  | notWordBoundary a => wordAt a p.before == wordAt a p.after
  | wordStart a => !wordAt a p.before && wordAt a p.after
  | wordEnd a => wordAt a p.before && !wordAt a p.after
  | wordStartHalf a => !wordAt a p.before
  | wordEndHalf a => !wordAt a p.after

end Assertion

/-! ## Expressions -/

/-- A pattern expression; a repetition without a greatest count is unbounded, and a group is an
expression whose occurrence is kept. -/
inductive PatternExpr where
  | empty
  | set (set : CharSet)
  | assertion (assertion : Assertion)
  | group (body : PatternExpr)
  | sequence (first second : PatternExpr)
  | choice (left right : PatternExpr)
  | repetition (body : PatternExpr) (least : Nat) (most : Option Nat)
  deriving DecidableEq, Repr

namespace PatternExpr

def andThen : PatternExpr → PatternExpr → PatternExpr
  | empty, second => second
  | first, empty => first
  | first, second => .sequence first second

def sequenceOf (exprs : List PatternExpr) : PatternExpr := exprs.foldr andThen .empty

def choiceOf : List PatternExpr → PatternExpr
  | [] => .empty
  | [e] => e
  | e :: rest => .choice e (choiceOf rest)

/-! ## Matching -/

/-- Whether the expression matches nothing at a position. -/
def matchesEmpty (p : Position) : PatternExpr → Bool
  | empty => true
  | set _ => false
  | assertion a => a.holds p
  | group body => body.matchesEmpty p
  | sequence a b => a.matchesEmpty p && b.matchesEmpty p
  | choice a b => a.matchesEmpty p || b.matchesEmpty p
  | repetition body least _ => least == 0 || body.matchesEmpty p

/-- What may be left to match after the character at a position.  A repetition whose body matches
nothing there has no least count any more. -/
def step (p : Position) (c : Char) : PatternExpr → List PatternExpr
  | empty => []
  | set s => if s.contains c then [.empty] else []
  | assertion _ => []
  | group body => body.step p c
  | sequence a b =>
    (a.step p c).map (fun rest => andThen rest b) ++ (if a.matchesEmpty p then b.step p c else [])
  | choice a b => a.step p c ++ b.step p c
  | repetition body least most =>
    if most = some 0 then []
    else
      let least := if body.matchesEmpty p then 0 else least - 1
      let most := most.map (· - 1)
      let again := if most = some 0 then .empty else .repetition body least most
      (body.step p c).map fun rest => andThen rest again

/-- Searches the rest of a text, given the character before it and the expressions that occurrences
begun earlier have left to match. -/
def searchFrom (e : PatternExpr) : (before : Option Char) → List PatternExpr → List Char → Bool
  | before, pending, [] => (e :: pending).any fun r => r.matchesEmpty ⟨before, none⟩
  | before, pending, c :: rest =>
    let p : Position := ⟨before, some c⟩
    let active := e :: pending
    active.any (fun r => r.matchesEmpty p) ||
      e.searchFrom (some c) (active.flatMap fun r => r.step p c).eraseDups rest

/-- Whether the expression matches a part of the text. -/
def search (e : PatternExpr) (text : List Char) : Bool := e.searchFrom none [] text

/-! ## Size -/

/-- Whether the expression only ever matches the empty text. -/
def isZeroWidth : PatternExpr → Bool
  | empty => true
  | set _ => false
  | assertion _ => true
  | group body => body.isZeroWidth
  | sequence a b => a.isZeroWidth && b.isZeroWidth
  | choice a b => a.isZeroWidth && b.isZeroWidth
  | repetition body _ most => body.isZeroWidth || most == some 0

/-- Whether the empty text is among those that the expression matches somewhere. -/
def isNullable : PatternExpr → Bool
  | empty => true
  | set _ => false
  | assertion _ => true
  | group body => body.isNullable
  | sequence a b => a.isNullable && b.isNullable
  | choice a b => a.isNullable || b.isNullable
  | repetition body least most => least == 0 || body.isNullable || most == some 0

/-- The set of characters that a choice between sets comes down to. -/
def asSet? : PatternExpr → Option CharSet
  | set s => some s
  | choice a b => match a.asSet?, b.asSet? with
    | some s, some t => some (.union s t)
    | _, _ => none
  | _ => none

/-- Whether the expression is a choice that is more than a set. -/
def isBranching : PatternExpr → Bool
  | choice a b => (choice a b).asSet?.isNone
  | _ => false

/-- The bytes for a repetition of what takes `size` bytes. -/
def repetitionWeight (nullable : Bool) (size : Nat) : (least : Nat) → (most : Option Nat) → Nat
  | 0, some 0 => stateSize
  | 0, some 1 => size + 2 * stateSize + 2 * targetSize
  -- What may match nothing must not be entered again without having read anything.
  | 0, none =>
    if nullable then size + 3 * stateSize + 4 * targetSize else size + stateSize + 2 * targetSize
  | least, none => least * size + stateSize + 2 * targetSize
  | least, some most =>
    -- Copies up to the least count, then one copy with a way past it for each further count.
    if least = most then least * size
    else (if least = 0 then stateSize else least * size) + stateSize +
      (most - least) * (size + stateSize + 2 * targetSize)

/-- The bytes that an automaton takes for the expression, branches with a common beginning counted
apart. -/
def weight (direction : Direction) : PatternExpr → Nat
  | empty => stateSize
  | set s => s.weight direction
  | assertion _ => stateSize
  | group body => match direction with
    | .forward => body.weight direction + 2 * stateSize
    -- Where a group begins and ends is asked for only while a text is read forward.
    | .backward => body.weight direction
  | sequence a b => a.weight direction + b.weight direction
  | choice a b =>
    match (choice a b).asSet? with
    | some s => s.weight direction
    | none =>
      -- A choice among the branches adds its own branches, and no states of its own.
      let branch := fun (e : PatternExpr) (size : Nat) =>
        if e.isBranching then size - 2 * stateSize else size + targetSize
      branch a (a.weight direction) + branch b (b.weight direction) + 2 * stateSize
  | repetition body least most =>
    let size := body.weight direction
    -- To match nothing twice is to match it once.
    if body.isZeroWidth then
      repetitionWeight body.isNullable size (min least 1) (some (min (most.getD 1) 1))
    else repetitionWeight body.isNullable size least most

end PatternExpr

end Conform
