/-!
# Places in YAML texts

YAML depends on lines and columns, so a text is read by a cursor that knows where it stands.  This
file defines:

* `Yaml.Cursor`: the rest of the text with index, line and column;
* `isBreak`, `isGap`, `atGap`, `atMarker`: classes of characters and places;
* `Cursor.skip`, `Cursor.skipWhile`, `Cursor.skipBreak`: moving on;
* `breakText`: what a line break becomes in a scalar.
-/

namespace Conform

namespace Yaml

/-- The rest of a text, and how far into it, into its lines and into the line it starts. -/
structure Cursor where
  rest : List Char
  index : Nat
  line : Nat
  column : Nat

/-! ## Classes -/

def isBreak (c : Char) : Bool :=
  c == '\n' || c == '\r' || c.toNat == 0x85 || c.toNat == 0x2028 || c.toNat == 0x2029

def isGap (c : Char) : Bool := c == ' ' || c == '\t'

/-- Whether a text starts with a space, a tab or a line break, or is over. -/
def atGap : List Char → Bool
  | [] => true
  | c :: _ => isGap c || isBreak c

/-- Whether a text starts with a marker of documents, three hyphens or three points by themselves. -/
def atMarker : List Char → Bool
  | '-' :: '-' :: '-' :: rest => atGap rest
  | '.' :: '.' :: '.' :: rest => atGap rest
  | _ => false

/-- Letters, digits, the hyphen and the underscore. -/
def isNameChar (c : Char) : Bool :=
  c.isAlphanum || c == '-' || c == '_'

def isAllowed (c : Char) : Bool :=
  let n := c.toNat
  n == 9 || n == 10 || n == 13 || (0x20 ≤ n && n ≤ 0x7E) || n == 0x85 ||
    (0xA0 ≤ n && n ≤ 0xFFFD) || 0x10000 ≤ n

namespace Cursor

/-! ## Moving -/

def start (text : List Char) : Cursor := ⟨text, 0, 0, 0⟩

/-- Moves over so many characters of one line. -/
def skip (cursor : Cursor) (count : Nat) : Cursor :=
  ⟨cursor.rest.drop count, cursor.index + count, cursor.line, cursor.column + count⟩

/-- Moves over the characters of one line that satisfy a test. -/
def skipWhile (cursor : Cursor) (test : Char → Bool) : Cursor :=
  cursor.skip (cursor.rest.takeWhile test).length

/-- Moves over a line break, to the start of the next line. -/
def skipBreak (cursor : Cursor) : Cursor :=
  match cursor.rest with
  | '\r' :: '\n' :: rest => ⟨rest, cursor.index + 2, cursor.line + 1, 0⟩
  | _ :: rest => ⟨rest, cursor.index + 1, cursor.line + 1, 0⟩
  | [] => cursor

/-- Moves over a comment, if one starts here. -/
def skipComment (cursor : Cursor) : Cursor :=
  match cursor.rest with
  | '#' :: _ => cursor.skipWhile (!isBreak ·)
  | _ => cursor

def atBreak (cursor : Cursor) : Bool :=
  match cursor.rest with
  | c :: _ => isBreak c
  | [] => false

/-- Whether a line of a document starts here with a marker. -/
def atDocumentMarker (cursor : Cursor) : Bool := cursor.column == 0 && atMarker cursor.rest

/-- What the line break that comes next becomes in a scalar: the separators of lines and of
paragraphs stand for themselves, all others for a newline. -/
def breakText (cursor : Cursor) : List Char :=
  match cursor.rest with
  | c :: _ =>
    if c.toNat = 0x2028 ∨ c.toNat = 0x2029 then [c] else if isBreak c then ['\n'] else []
  | [] => []

/-- The rest of a line after its contents: blanks, a comment and the break.  Anything else is
refused. -/
def endLine? (cursor : Cursor) : Option Cursor :=
  let cursor := (cursor.skipWhile isGap).skipComment
  match cursor.rest with
  | [] => some cursor
  | c :: _ => if isBreak c then some cursor.skipBreak else none

end Cursor

end Yaml

end Conform
