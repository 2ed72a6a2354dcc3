import Conform.Pattern.Automaton
import Conform.Text.Case
import Conform.Text.Script

/-!
# Sets of characters in patterns

A set is a small expression over ranges, general categories and named properties.  This file
defines:

* `CharSet`: the expressions;
* `CharSet.contains`: membership, with case-insensitive closure by character classes;
* `CharSet.isAscii`: holding no character from 128 to 255, as patterns over bytes demand;
* `CharSet.codePoints`: the members as ranges;
* `CharSet.weight`: the bytes that a compiled automaton spends on the set;
* `CharSet.ofName?`: the set of a property, category or script given by name.
-/

namespace Conform

/-- An expression for a set of characters. -/
inductive CharSet where
  | ranges (ranges : List (Nat × Nat))
  | word
  | digit
  | space
  | categories (categories : List Category)
  | property (name : String)
  | union (left right : CharSet)
  | intersection (left right : CharSet)
  | difference (left right : CharSet)
  | symmetricDifference (left right : CharSet)
  | negation (set : CharSet)
  /-- The characters that differ from a member at most by case. -/
  | folded (set : CharSet)
  /-- The characters that differ from a member at most by the case of an ASCII letter. -/
  | asciiFolded (set : CharSet)
  deriving DecidableEq, Repr

namespace CharSet

def empty : CharSet := .ranges []

def all : CharSet := .ranges [(0, 0x10FFFF)]

def singleton (c : Char) : CharSet := .ranges [(c.toNat, c.toNat)]

def contains : CharSet → Char → Bool
  | ranges rs, c => Ranges.contains rs c.toNat
  | word, c => Property.isWord c
  | digit, c => Category.decimalNumber.contains c
  | space, c => isBlank c
  | categories cs, c => Category.anyContains cs c
  | property name, c => match Property.find? name with
    | some rs => rs.contains c.toNat
    | none => false
  | union a b, c => a.contains c || b.contains c
  | intersection a b, c => a.contains c && b.contains c
  | difference a b, c => a.contains c && !b.contains c
  | symmetricDifference a b, c => a.contains c != b.contains c
  | negation s, c => !s.contains c
  | folded s, c => (foldClass c).any s.contains
  | asciiFolded s, c => s.contains c || s.contains (asciiLower c) || s.contains (asciiUpper c)

/-- Without a member from 128 to 255. -/
def isAscii (s : CharSet) : Bool :=
  (List.range 128).all fun n => !s.contains (Char.ofNat (128 + n))

def unionOf (sets : List CharSet) : CharSet :=
  match sets with
  | [] => empty
  | s :: rest => rest.foldl .union s

/-! ## Size -/

def codePoints : CharSet → Ranges
  | ranges rs => rs
  | word => Property.word
  | digit => Category.decimalNumberRanges
  | space => Property.whiteSpace
  | categories cs => cs.flatMap Category.codePoints
  | property name => (Property.find? name).getD []
  | union a b => a.codePoints ++ b.codePoints
  | intersection a b => a.codePoints.intersection b.codePoints
  | difference a b => a.codePoints.difference b.codePoints
  | symmetricDifference a b =>
    a.codePoints.difference b.codePoints ++ b.codePoints.difference a.codePoints
  | negation s => s.codePoints.complement
  -- Only characters that are not alone in their class have to be looked at one by one.
  | folded s =>
    s.codePoints.difference (.ofPoints foldedPoints) ++
      .ofPoints (foldedMembers s.contains)
  | asciiFolded s =>
    s.codePoints.difference [(0, 0x7F)] ++
      .ofPoints ((List.range 0x80).filter fun n => (asciiFolded s).contains (Char.ofNat n))

def weight (direction : Direction) (s : CharSet) : Nat := s.codePoints.weight direction

/-! ## Sets by name -/

/-- A name in reduced form: ASCII letters in lower case, without spaces, hyphens, underscores,
characters outside of ASCII and a leading `is`. -/
def reducedName (name : List Char) : String :=
  let (named, isPart) := match name with
    | i :: s :: rest =>
      if asciiLower i = 'i' ∧ asciiLower s = 's' then (rest, true) else (name, false)
    | _ => (name, false)
  let reduced := (named.filter fun c => c.toNat < 0x80 && c != ' ' && c != '_' && c != '-').map
    asciiLower
  if isPart ∧ reduced = ['c'] then "isc" else String.ofList reduced

def categoryNames : List (List String × List Category) := [
  (["c", "other"], [.control, .format, .unassigned, .privateUse]),
  (["cc", "control", "cntrl"], [.control]),
  (["cf", "format"], [.format]),
  (["cn", "unassigned"], [.unassigned]),
  (["co", "privateuse"], [.privateUse]),
  (["l", "letter"], Property.letters),
  (["lc", "casedletter"], [.uppercaseLetter, .lowercaseLetter, .titlecaseLetter]),
  (["ll", "lowercaseletter"], [.lowercaseLetter]),
  (["lm", "modifierletter"], [.modifierLetter]),
  (["lo", "otherletter"], [.otherLetter]),
  (["lt", "titlecaseletter"], [.titlecaseLetter]),
  (["lu", "uppercaseletter"], [.uppercaseLetter]),
  (["m", "mark", "combiningmark"], Property.marks),
  (["mc", "spacingmark"], [.spacingMark]),
  (["me", "enclosingmark"], [.enclosingMark]),
  (["mn", "nonspacingmark"], [.nonspacingMark]),
  (["n", "number"], [.decimalNumber, .letterNumber, .otherNumber]),
  (["nd", "decimalnumber", "digit"], [.decimalNumber]),
  (["nl", "letternumber"], [.letterNumber]),
  (["no", "othernumber"], [.otherNumber]),
  (["p", "punctuation", "punct"], [.connectorPunctuation, .dashPunctuation, .openPunctuation,
    .closePunctuation, .initialPunctuation, .finalPunctuation, .otherPunctuation]),
  (["pc", "connectorpunctuation"], [.connectorPunctuation]),
  (["pd", "dashpunctuation"], [.dashPunctuation]),
  (["pe", "closepunctuation"], [.closePunctuation]),
  (["pf", "finalpunctuation"], [.finalPunctuation]),
  (["pi", "initialpunctuation"], [.initialPunctuation]),
  (["po", "otherpunctuation"], [.otherPunctuation]),
  (["ps", "openpunctuation"], [.openPunctuation]),
  (["s", "symbol"], [.mathSymbol, .currencySymbol, .modifierSymbol, .otherSymbol]),
  (["sc", "currencysymbol"], [.currencySymbol]),
  (["sk", "modifiersymbol"], [.modifierSymbol]),
  (["sm", "mathsymbol"], [.mathSymbol]),
  (["so", "othersymbol"], [.otherSymbol]),
  (["z", "separator"], [.spaceSeparator, .lineSeparator, .paragraphSeparator]),
  (["zl", "lineseparator"], [.lineSeparator]),
  (["zp", "paragraphseparator"], [.paragraphSeparator]),
  (["zs", "spaceseparator"], [.spaceSeparator])]

/-- The set of a general category, or one of the three sets that are named along with them. -/
def ofCategoryName? (name : String) : Option CharSet :=
  if name = "any" then some all
  else if name = "ascii" then some (.ranges [(0, 0x7F)])
  else if name = "assigned" then some (.negation (.categories [.unassigned]))
  else (categoryNames.find? fun (names, _) => names.contains name).map
    fun (_, cs) => .categories cs

def ofScriptName? (name : String) : Option CharSet := (Script.find? name).map .ranges

/-- The set of a lone name: a property, else a category, else a script.  Three short names denote
categories although properties share them. -/
def ofName? (name : List Char) : Option CharSet :=
  let name := reducedName name
  let property? :=
    if ["cf", "sc", "lc"].contains name then none
    else (Property.find? name).map fun _ => .property name
  property? <|> ofCategoryName? name <|> ofScriptName? name

/-- The set of a value of a named property. -/
def ofNameValue? (name value : List Char) : Option CharSet :=
  let name := reducedName name
  let value := reducedName value
  if name = "generalcategory" ∨ name = "gc" then ofCategoryName? value
  else if name = "script" ∨ name = "sc" ∨ name = "scriptextensions" ∨ name = "scx" then
    ofScriptName? value
  else none

end CharSet

end Conform
