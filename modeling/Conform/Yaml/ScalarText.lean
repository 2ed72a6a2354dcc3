import Conform.Text.Ascii
import Conform.Yaml.Cursor

/-!
# Scalars of YAML texts

A scalar is written in quotes, plainly, or as a block of lines.  Line breaks within it fold into
spaces, unless the block is literal.  This file defines:

* `Gap`: blanks and line breaks between the words of a scalar, and what they fold into;
* `quoted?`: a scalar in quotes;
* `plain?`: a plain scalar;
* `block?`: a block scalar.
-/

namespace Conform

namespace Yaml

/-! ## Gaps -/

/-- What stands between two words of a scalar. -/
structure Gap where
  /-- The blanks before any line break. -/
  blanks : List Char := []
  /-- Whether there is a line break. -/
  broken : Bool := false
  /-- The first line break. -/
  first : List Char := []
  /-- The line breaks after it. -/
  more : List Char := []

/-- What a gap leaves in the text. -/
def Gap.text (gap : Gap) : List Char :=
  if gap.broken then
    -- One line break folds into a space, and of several all but the first stay.
    if gap.first = ['\n'] then (if gap.more.isEmpty then [' '] else gap.more)
    else gap.first ++ gap.more
  else gap.blanks

/-- Reads a gap, of a scalar whose continued lines start at column `indent`. -/
def readGap? (indent : Nat) : (fuel : Nat) → Cursor → Gap → Option (Cursor × Gap)
  | 0, _, _ => none
  | fuel + 1, cursor, gap =>
    match cursor.rest with
    | [] => some (cursor, gap)
    | c :: _ =>
      if isGap c then
        if gap.broken then
          -- A tab may not stand for the indentation of a continued line.
          if c == '\t' && cursor.column < indent then none
          else readGap? indent fuel (cursor.skip 1) gap
        else readGap? indent fuel (cursor.skip 1) { gap with blanks := gap.blanks ++ [c] }
      else if isBreak c then
        let gap := if gap.broken then { gap with more := gap.more ++ cursor.breakText }
          else { gap with broken := true, first := cursor.breakText }
        readGap? indent fuel cursor.skipBreak gap
      else some (cursor, gap)

/-! ## Quoted scalars -/

def escaped? : Char → Option Char
  | '0' => some (Char.ofNat 0)
  | 'a' => some (Char.ofNat 7)
  | 'b' => some (Char.ofNat 8)
  | 't' | '\t' => some '\t'
  | 'n' => some '\n'
  | 'v' => some (Char.ofNat 11)
  | 'f' => some (Char.ofNat 12)
  | 'r' => some '\r'
  | 'e' => some (Char.ofNat 27)
  | ' ' => some ' '
  | '"' => some '"'
  | '/' => some '/'
  | '\\' => some '\\'
  | 'N' => some (Char.ofNat 0x85)
  | '_' => some (Char.ofNat 0xA0)
  | 'L' => some (Char.ofNat 0x2028)
  | 'P' => some (Char.ofNat 0x2029)
  | _ => none

/-- How many hexadecimal digits follow a letter that introduces a code. -/
def codeWidth? : Char → Option Nat
  | 'x' => some 2
  | 'u' => some 4
  | 'U' => some 8
  | _ => none

def hexNumber? (digits : List Char) : Option Nat :=
  digits.foldlM (fun n c => (hexDigit? c).map (n * 16 + ·)) 0

/-- The character of an escape after its backslash, and the length of the escape. -/
def readEscape? : List Char → Option (Char × Nat)
  | [] => none
  | c :: rest =>
    match codeWidth? c with
    | some width => do
      let digits := rest.take width
      if digits.length < width then none
      let char ← charOfCode? (← hexNumber? digits)
      return (char, width + 2)
    | none => (escaped? c).map fun char => (char, 2)

/-- Reads a word of a quoted scalar, last character first; the flag tells of an escaped line break
after it. -/
def quotedWord? (single : Bool) : (fuel : Nat) → Cursor → (seen : List Char) →
    Option (Cursor × List Char × Bool)
  | 0, _, _ => none
  | fuel + 1, cursor, seen =>
    match cursor.rest with
    | [] => some (cursor, seen, false)
    | c :: rest =>
      if isGap c || isBreak c then some (cursor, seen, false)
      else if single then
        match c, rest with
        -- Two quotes stand for one.
        | '\'', '\'' :: _ => quotedWord? single fuel (cursor.skip 2) ('\'' :: seen)
        | '\'', _ => some (cursor, seen, false)
        | c, _ => quotedWord? single fuel (cursor.skip 1) (c :: seen)
      else if c = '"' then some (cursor, seen, false)
      else if c = '\\' then
        if (cursor.skip 1).atBreak then some ((cursor.skip 1).skipBreak, seen, true)
        else (readEscape? rest).bind fun (char, length) =>
          quotedWord? single fuel (cursor.skip length) (char :: seen)
      else quotedWord? single fuel (cursor.skip 1) (c :: seen)

/-- Reads a quoted scalar after its opening quote; no marker of documents may stand in it. -/
def quotedBody? (single : Bool) : (fuel : Nat) → Cursor → (seen : List Char) →
    Option (Cursor × List Char)
  | 0, _, _ => none
  | fuel + 1, cursor, seen => do
    if cursor.atDocumentMarker || cursor.rest.isEmpty then none
    let (cursor, seen, broken) ← quotedWord? single (cursor.rest.length + 1) cursor seen
    if cursor.rest.head? = some (if single then '\'' else '"') then
      return (cursor.skip 1, seen.reverse)
    let (cursor, gap) ← readGap? 0 (cursor.rest.length + 1) cursor { broken }
    quotedBody? single fuel cursor (gap.text.reverse ++ seen)

def quoted? (single : Bool) (cursor : Cursor) : Option (Cursor × List Char) :=
  quotedBody? single (cursor.rest.length + 1) (cursor.skip 1) []

/-! ## Plain scalars -/

/-- Characters that end a plain scalar within flow collections. -/
def isFlowMark (c : Char) : Bool :=
  c == ',' || c == '[' || c == ']' || c == '\x7b' || c == '\x7d'

/-- The characters up to where a word of a plain scalar ends. -/
def plainWord? (flow : Bool) : List Char → Option (List Char)
  | [] => some []
  | c :: rest =>
    if isGap c || isBreak c then some []
    else if c = ':' then
      -- Within flow collections no colon may stand right before one of their marks.
      if flow && (rest.head?.any fun d => isFlowMark d || d == '?') then none
      else if atGap rest then some []
      else (plainWord? flow rest).map (c :: ·)
    else if flow && isFlowMark c then some []
    else (plainWord? flow rest).map (c :: ·)

/-- Reads a plain scalar; the flag tells whether a line break follows it. -/
def plainBody? (flow : Bool) (indent : Nat) : (fuel : Nat) → Cursor → Gap → (seen : List Char) →
    Option (Cursor × List Char × Bool)
  | 0, _, _, _ => none
  | fuel + 1, cursor, gap, seen => do
    if cursor.atDocumentMarker || cursor.rest.head? = some '#' then
      return (cursor, seen, gap.broken)
    let word ← plainWord? flow cursor.rest
    let (gap, seen) := if word.isEmpty then (gap, seen) else ({}, seen ++ gap.text ++ word)
    let cursor := cursor.skip word.length
    if cursor.rest.isEmpty || !atGap cursor.rest then return (cursor, seen, gap.broken)
    let (cursor, gap) ← readGap? indent (cursor.rest.length + 1) cursor gap
    if !flow && cursor.column < indent then return (cursor, seen, gap.broken)
    plainBody? flow indent fuel cursor gap seen

/-- Reads a plain scalar whose continued lines start at column `indent` at least. -/
def plain? (flow : Bool) (indent : Nat) (cursor : Cursor) : Option (Cursor × List Char × Bool) :=
  plainBody? flow indent (cursor.rest.length + 1) cursor {} []

/-! ## Block scalars -/

/-- What becomes of the line breaks at the end of a block. -/
inductive Chomping where
  | clip
  | strip
  | keep
  deriving DecidableEq

def chomping? : List Char → Option Chomping
  | '+' :: _ => some .keep
  | '-' :: _ => some .strip
  | _ => none

/-- The digit of an indentation that is stated; it may not be zero. -/
def increment? (cursor : Cursor) : Option (Option Nat × Cursor) :=
  match cursor.rest.head?.bind digit? with
  | some 0 => none
  | some n => some (some n, cursor.skip 1)
  | none => some (none, cursor)

/-- The header of a block: chomping and indentation in either order. -/
def blockHeader? (cursor : Cursor) : Option (Chomping × Option Nat × Cursor) :=
  match chomping? cursor.rest with
  | some chomping => do
    let (increment, cursor) ← increment? (cursor.skip 1)
    return (chomping, increment, cursor)
  | none => do
    let (increment, cursor) ← increment? cursor
    match increment, chomping? cursor.rest with
    | some _, some chomping => return (chomping, increment, cursor.skip 1)
    | _, _ => return (.clip, increment, cursor)

/-- Moves over the spaces of an indentation, all of them when it is not known yet. -/
def skipIndent (indent : Option Nat) (cursor : Cursor) : Cursor :=
  let spaces := (cursor.rest.takeWhile (· == ' ')).length
  match indent with
  | some n => cursor.skip (min spaces (n - cursor.column))
  | none => cursor.skip spaces

/-- Reads empty lines and the indentation of the line after them.  Returns the greatest column that
was reached, which tells the indentation of a block that does not state it, and the line breaks. -/
def blockBreaks? (indent : Option Nat) : (fuel : Nat) → Cursor → (widest : Nat) →
    (breaks : List Char) → Option (Cursor × Nat × List Char)
  | 0, _, _, _ => none
  | fuel + 1, cursor, widest, breaks =>
    let cursor := skipIndent indent cursor
    let widest := max widest cursor.column
    let short := match indent with
      | some n => decide (cursor.column < n)
      | none => true
    if short && cursor.rest.head? == some '\t' then none
    else if cursor.atBreak then
      blockBreaks? indent fuel cursor.skipBreak widest (breaks ++ cursor.breakText)
    else some (cursor, widest, breaks)

/-- Whether a line of a block starts with a blank. -/
def startsBlank (cursor : Cursor) : Bool := cursor.rest.head?.any isGap

/-- Reads the lines of a block.  `first` is the break of the line before and `more` the empty lines
after it. -/
def blockLines? (literal : Bool) (indent : Nat) (chomping : Chomping) : (fuel : Nat) → Cursor →
    (blankBefore : Bool) → (first more seen : List Char) → Option (Cursor × List Char)
  | 0, _, _, _, _, _ => none
  | fuel + 1, cursor, blankBefore, first, more, seen =>
    if cursor.column = indent ∧ ¬ cursor.rest.isEmpty then do
      let blank := startsBlank cursor
      -- A break folds between two lines that start without a blank.
      let folds := !literal && first == ['\n'] && !blankBefore && !blank
      let joint := if folds then (if more.isEmpty then [' '] else more) else first ++ more
      let line := cursor.rest.takeWhile (!isBreak ·)
      let cursor := cursor.skip line.length
      let first := cursor.breakText
      let cursor := cursor.skipBreak
      let (cursor, _, more) ← blockBreaks? (some indent) (cursor.rest.length + 1) cursor 0 []
      blockLines? literal indent chomping fuel cursor blank first more (seen ++ joint ++ line)
    else
      match chomping with
      | .strip => some (cursor, seen)
      | .clip => some (cursor, seen ++ first)
      | .keep => some (cursor, seen ++ first ++ more)

/-- Reads a block scalar within a block indented to column `outer - 1`. -/
def block? (literal : Bool) (outer : Nat) (cursor : Cursor) : Option (Cursor × List Char) := do
  let (chomping, increment, cursor) ← blockHeader? (cursor.skip 1)
  let cursor ← cursor.endLine?
  let stated := increment.map fun n => (outer - 1) + n
  let (cursor, widest, breaks) ← blockBreaks? stated (cursor.rest.length + 1) cursor 0 []
  let indent := stated.getD (max widest (max outer 1))
  blockLines? literal indent chomping (cursor.rest.length + 1) cursor false [] breaks []

end Yaml

end Conform
