import Conform.Text.Ascii
import Conform.Yaml.Cursor

/-!
# Tags and directives of YAML texts

A tag states the type of a node: a handle, which stands for a prefix, and a suffix.  Suffixes may
hold bytes in percent escapes, so tags are kept as bytes.  Directives before a document state its
version and the handles that its tags use.  This file defines:

* `TagText`: a tag as written, and `readTag?`;
* `Directive`, and `readDirective?`;
* `tagPrefix?`, `TagText.resolve?`: what a handle stands for, and the tag as a whole.
-/

namespace Conform

namespace Yaml

/-- A tag as written; without a handle the suffix is the whole tag. -/
structure TagText where
  handle : List Char
  suffix : List UInt8
  deriving DecidableEq

/-- A directive. -/
inductive Directive where
  | version (major minor : Nat)
  | handle (handle : List Char) (expansion : List UInt8)
  deriving DecidableEq

/-! ## Bytes -/

/-- The byte of an escape: a percent sign and two hexadecimal digits. -/
def escapedByte? : List Char → Option Nat
  | '%' :: a :: b :: _ => do return (← hexDigit? a) * 16 + (← hexDigit? b)
  | _ => none

/-- How many bytes a character takes whose encoding starts with this byte. -/
def encodedWidth? (byte : Nat) : Option Nat :=
  if byte < 0x80 then some 1
  else if 0xC0 ≤ byte ∧ byte < 0xE0 then some 2
  else if 0xE0 ≤ byte ∧ byte < 0xF0 then some 3
  else if 0xF0 ≤ byte ∧ byte < 0xF8 then some 4
  else none

def continuation? : (count : Nat) → List Char → Option (List UInt8)
  | 0, _ => some []
  | count + 1, text => do
    let byte ← escapedByte? text
    if byte < 0x80 ∨ 0xC0 ≤ byte then none
    return UInt8.ofNat byte :: (← continuation? count (text.drop 3))

/-- The escaped bytes of one character, three characters of text each. -/
def escapedBytes? (text : List Char) : Option (List UInt8) := do
  let byte ← escapedByte? text
  let width ← encodedWidth? byte
  return UInt8.ofNat byte :: (← continuation? (width - 1) (text.drop 3))

def isTagChar (verbatim : Bool) (c : Char) : Bool :=
  isNameChar c || [';', '/', '?', ':', '@', '&', '=', '+', '$', '.', '%', '!', '~', '*', '\'',
    '(', ')'].contains c || (verbatim && (c == ',' || c == '[' || c == ']'))

/-- Reads the bytes of a tag, last first. -/
def readTagBytes? (verbatim : Bool) : (fuel : Nat) → Cursor → (seen : List UInt8) →
    Option (Cursor × List UInt8)
  | 0, _, _ => none
  | fuel + 1, cursor, seen =>
    match cursor.rest with
    | [] => some (cursor, seen)
    | c :: _ =>
      if c = '%' then
        (escapedBytes? cursor.rest).bind fun bytes =>
          readTagBytes? verbatim fuel (cursor.skip (3 * bytes.length)) (bytes.reverse ++ seen)
      else if isTagChar verbatim c then
        readTagBytes? verbatim fuel (cursor.skip 1) (UInt8.ofNat c.toNat :: seen)
      else some (cursor, seen)

/-- Reads the rest of a tag; `head` is what was read of it before, at least one character in all.
The leading exclamation mark of the head is left out. -/
def readTagRest? (verbatim : Bool) (head : List Char) (cursor : Cursor) :
    Option (Cursor × List UInt8) := do
  let (cursor, bytes) ← readTagBytes? verbatim (cursor.rest.length + 1) cursor []
  if head.isEmpty && bytes.isEmpty then none
  return (cursor, (head.drop 1).map (fun c => UInt8.ofNat c.toNat) ++ bytes.reverse)

/-! ## Tags -/

/-- Reads an exclamation mark, a name and perhaps another exclamation mark. -/
def readHandle? (cursor : Cursor) : Option (Cursor × List Char) :=
  match cursor.rest with
  | '!' :: rest =>
    let name := rest.takeWhile isNameChar
    match rest.drop name.length with
    | '!' :: _ => some (cursor.skip (name.length + 2), '!' :: (name ++ ['!']))
    | _ => some (cursor.skip (name.length + 1), '!' :: name)
  | _ => none

/-- Whether what was read as a handle is one: it ends in a second exclamation mark. -/
def isHandle (handle : List Char) : Bool :=
  match handle with
  | '!' :: _ :: _ => handle.getLast? == some '!'
  | _ => false

/-- Reads a tag, either verbatim in angle brackets or with a handle; a gap has to follow, or within
flow collections a comma. -/
def readTag? (flow : Bool) (cursor : Cursor) : Option (Cursor × TagText) := do
  let (cursor, tag) ← match cursor.rest with
    | '!' :: '<' :: _ => do
      let (cursor, suffix) ← readTagRest? true [] (cursor.skip 2)
      if cursor.rest.head? != some '>' then none
      pure (cursor.skip 1, (⟨[], suffix⟩ : TagText))
    | _ => do
      let (cursor, handle) ← readHandle? cursor
      if isHandle handle then
        let (cursor, suffix) ← readTagRest? false [] cursor
        pure (cursor, ⟨handle, suffix⟩)
      else
        let (cursor, suffix) ← readTagRest? false handle cursor
        pure (cursor, if suffix.isEmpty then ⟨[], [0x21]⟩ else ⟨['!'], suffix⟩)
  if atGap cursor.rest || (flow && cursor.rest.head? == some ',') then return (cursor, tag)
  none

/-! ## Directives -/

/-- Reads a number of at most nine digits. -/
def readVersionNumber? (cursor : Cursor) : Option (Cursor × Nat) :=
  let digits := cursor.rest.takeWhile Char.isDigit
  if digits.isEmpty ∨ 9 < digits.length then none
  else some (cursor.skip digits.length, digits.foldl (fun n c => n * 10 + (c.toNat - 48)) 0)

def readVersion? (cursor : Cursor) : Option (Cursor × Directive) := do
  let (cursor, major) ← readVersionNumber? (cursor.skipWhile isGap)
  if cursor.rest.head? != some '.' then none
  let (cursor, minor) ← readVersionNumber? (cursor.skip 1)
  return (cursor, .version major minor)

/-- Reads what a tag directive states: a handle and what it stands for. -/
def readTagDirective? (cursor : Cursor) : Option (Cursor × Directive) := do
  let (cursor, handle) ← readHandle? (cursor.skipWhile isGap)
  if handle != ['!'] && handle.getLast? != some '!' then none
  if !cursor.rest.head?.any isGap then none
  let (cursor, expansion) ← readTagRest? true [] (cursor.skipWhile isGap)
  if !atGap cursor.rest then none
  return (cursor, .handle handle expansion)

/-- Reads a directive with the end of its line. -/
def readDirective? (cursor : Cursor) : Option (Cursor × Directive) := do
  let cursor := cursor.skip 1
  let name := cursor.rest.takeWhile isNameChar
  let cursor := cursor.skip name.length
  if name.isEmpty || !atGap cursor.rest then none
  let (cursor, directive) ←
    if name = "YAML".toList then readVersion? cursor
    else if name = "TAG".toList then readTagDirective? cursor
    else none
  return (← cursor.endLine?, directive)

/-! ## Meaning -/

def asciiBytes (text : String) : List UInt8 := text.toList.map fun c => UInt8.ofNat c.toNat

/-- What a handle stands for: what the directives say, else itself for the primary handle and the
standard types for the secondary one. -/
def tagPrefix? (handles : List (List Char × List UInt8)) (handle : List Char) :
    Option (List UInt8) :=
  match handles.find? (·.1 == handle) with
  | some (_, expansion) => some expansion
  | none =>
    if handle = ['!'] then some [0x21]
    else if handle = ['!', '!'] then some (asciiBytes "tag:yaml.org,2002:")
    else none

def TagText.resolve? (handles : List (List Char × List UInt8)) (tag : TagText) :
    Option (List UInt8) :=
  if tag.handle.isEmpty then some tag.suffix
  else (tagPrefix? handles tag.handle).map (· ++ tag.suffix)

end Yaml

end Conform
