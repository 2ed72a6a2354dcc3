import Conform.Text.Ascii
import Conform.Text.CaseTable
import Conform.Text.Property

/-!
# Upper and lower case of texts

Case mapping works character by character and may lengthen the text.  One letter looks at its
neighbours: capital sigma becomes final sigma at the end of a word.  This file defines:

* `lowerChar`, `upperChar`: the images of a character on its own;
* `isWordEnd`: the condition for a final sigma;
* `toLower`, `toUpper`: the images of a text;
* `foldRepresentative` and `foldClass`: case-insensitive equivalence of characters;
* `foldedMembers`: the characters that are not alone in their class, where it meets a set.
-/

namespace Conform

/-- The character of a code point, or the given one when there is none. -/
def charOr (default : Char) (n : Nat) : Char := if n.isValidChar then Char.ofNat n else default

/-- The lower case of a character on its own. -/
def lowerChar (c : Char) : List Char :=
  if c.toNat < 0x80 then [asciiLower c]
  -- The dotted capital i is the only letter whose lower case is two characters.
  else if c.toNat = 0x130 then ['i', Char.ofNat 0x307]
  else match CaseRun.find? CaseTable.lowerRuns c.toNat with
    | some n => [charOr c n]
    | none => [c]

/-- The upper case of a character on its own. -/
def upperChar (c : Char) : List Char :=
  if c.toNat < 0x80 then [asciiUpper c]
  else match CaseTable.upperExpansions.lookup c.toNat with
    | some ns => ns.map (charOr c)
    | none => match CaseRun.find? CaseTable.upperRuns c.toNat with
      | some n => [charOr c n]
      | none => [c]

/-- Whether the nearest character that matters for casing is a cased one. -/
def meetsCased (text : List Char) : Bool :=
  match text.dropWhile Property.isCaseIgnorable with
  | c :: _ => Property.isCased c
  | [] => false

/-- A word ends here: a cased character precedes, the nearest first, and none follows. -/
def isWordEnd (before after : List Char) : Bool := meetsCased before && !meetsCased after

/-- The lower case of characters, given those before them in reverse order. -/
def lowerFrom (before : List Char) : List Char → List Char
  | [] => []
  | c :: rest =>
    let image :=
      -- Capital sigma is the only letter that looks at its neighbours.
      if c.toNat = 0x3A3 then
        [if isWordEnd before rest then Char.ofNat 0x3C2 else Char.ofNat 0x3C3]
      else lowerChar c
    image ++ lowerFrom (c :: before) rest

def toLower (text : String) : String := String.ofList (lowerFrom [] text.toList)

def toUpper (text : String) : String := String.ofList (text.toList.flatMap upperChar)

/-! ## Case-insensitive classes -/

/-- The representative of the case-insensitive class of a character. -/
def foldRepresentative (c : Char) : Char :=
  match CaseRun.find? CaseTable.foldRuns c.toNat with
  | some n => charOr c n
  | none => c

/-- The characters that differ from a character at most by case. -/
def foldClass (c : Char) : List Char :=
  let representative := foldRepresentative c
  representative :: (CaseRun.sources CaseTable.foldRuns representative.toNat).map (charOr c)

/-- The code points that are moved to a representative, and those that are one. -/
def foldedPoints : List Nat :=
  CaseTable.foldRuns.flatMap fun run => run.points ++ run.points.map run.image

/-- Each of these code points with its case-insensitive class. -/
def foldClasses : List (Nat × List Char) := foldedPoints.map fun n => (n, foldClass (Char.ofNat n))

/-- Those of these code points that differ at most by case from a character that is asked for. -/
def foldedMembers (holds : Char → Bool) : List Nat :=
  (foldClasses.filter fun entry => entry.2.any holds).map (·.1)

end Conform
