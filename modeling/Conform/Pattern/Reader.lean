import Conform.Pattern.Expr

/-!
# Reading patterns

The reader follows the text once, from left to right, and refuses anything that is not in the
dialect: look-around and back-references, unknown escapes, unbalanced groups, repetitions without
an operand.  This file defines:

* `PatternFlags`: the options in force at a point of a pattern;
* `readEscape?`: what stands after a backslash;
* `readBracket?`: a set between brackets;
* `readGroup?`: everything up to the end of a group;
* `PatternExpr.read?`: a whole pattern.

Every reader takes the options and the text, and returns what it read with the rest of the text.
-/

namespace Conform

/-- The options in force at a point of a pattern. -/
structure PatternFlags where
  ignoreCase : Bool
  multiLine : Bool
  dotMatchesNewline : Bool
  swapGreed : Bool
  unicode : Bool
  carriageReturn : Bool
  ignoreBlanks : Bool
  deriving DecidableEq, Repr

namespace PatternFlags

/-- The options at the start of a pattern. -/
def initial : PatternFlags := ⟨false, false, false, false, true, false, false⟩

/-- Switches the option of a letter on or off. -/
def set? (flags : PatternFlags) (letter : Char) (value : Bool) : Option PatternFlags :=
  match letter with
  | 'i' => some { flags with ignoreCase := value }
  | 'm' => some { flags with multiLine := value }
  | 's' => some { flags with dotMatchesNewline := value }
  | 'U' => some { flags with swapGreed := value }
  | 'u' => some { flags with unicode := value }
  | 'R' => some { flags with carriageReturn := value }
  | 'x' => some { flags with ignoreBlanks := value }
  | _ => none

end PatternFlags

namespace PatternReader

/-! ## Blanks and numbers -/

/-- The text without leading blanks and comments. -/
def dropBlanks : (inComment : Bool) → List Char → List Char
  | _, [] => []
  -- A comment lasts up to the end of the line.
  | true, c :: rest => dropBlanks (c != '\n') rest
  | false, c :: rest =>
    if isBlank c then dropBlanks false rest
    else if c = '#' then dropBlanks true rest
    else c :: rest

/-- The text from the next character that counts. -/
def skip (flags : PatternFlags) (text : List Char) : List Char :=
  if flags.ignoreBlanks then dropBlanks false text else text

/-- A decimal number below `2 ^ 32`, blanks around it allowed. -/
def readCount? (flags : PatternFlags) (text : List Char) : Option (Nat × List Char) :=
  let rec digits : (fuel : Nat) → List Char → (seen : Option Nat) → Option (Nat × List Char)
    | 0, _, _ => none
    | fuel + 1, text, seen =>
      match text with
      | c :: rest =>
        match digit? c with
        | some d => digits fuel (skip flags rest) (some (seen.getD 0 * 10 + d))
        | none => seen.map fun n => (n, c :: rest)
      | [] => seen.map fun n => (n, [])
  match digits (text.length + 1) (trimStart text) none with
  | some (n, rest) => if n < 2 ^ 32 then some (n, trimStart rest) else none
  | none => none

/-! ## Escapes -/

/-- What an escape or a plain character stands for. -/
inductive Primitive where
  /-- A character; `byte` says that it was written as a byte in two hexadecimal digits. -/
  | literal (c : Char) (byte : Bool)
  | set (set : CharSet)
  | assertion (assertion : Assertion)

/-- The characters with a meaning of their own, which a backslash takes away. -/
def isMeta (c : Char) : Bool := "\\.+*?()|[]\x7b\x7d^$#&-~".toList.contains c

/-- Whether a backslash before the character leaves the character itself. -/
def isEscapable (c : Char) : Bool :=
  isMeta c || (c.toNat < 0x80 && !c.isAlphanum && c != '<' && c != '>')

/-- Hexadecimal digits, exactly `count` of them, as a number. -/
def readHexDigits? (flags : PatternFlags) :
    (count : Nat) → List Char → (seen : Nat) → Option (Nat × List Char)
  | 0, text, seen => some (seen, text)
  | count + 1, c :: rest, seen =>
    (hexDigit? c).bind fun d => readHexDigits? flags count (skip flags rest) (seen * 16 + d)
  | _ + 1, [], _ => none

/-- Hexadecimal digits up to a closing brace, at least one, as a number. -/
def readHexBrace? (flags : PatternFlags) :
    (fuel : Nat) → List Char → (seen : Option Nat) → Option (Nat × List Char)
  | 0, _, _ => none
  | fuel + 1, text, seen =>
    match skip flags text with
    | '\x7d' :: rest => seen.map fun n => (n, skip flags rest)
    | c :: rest =>
      (hexDigit? c).bind fun d => readHexBrace? flags fuel rest (some (seen.getD 0 * 16 + d))
    | [] => none

/-- A character by its number, after the letter of the escape. -/
def readHex? (flags : PatternFlags) (count : Nat) (text : List Char) :
    Option (Primitive × List Char) :=
  match skip flags text with
  | '\x7b' :: rest => do
    let (n, rest) ← readHexBrace? flags (rest.length + 1) rest none
    let c ← charOfCode? n
    return (.literal c false, rest)
  -- Without braces the letter says how many digits there are.
  | text => do
    let (n, rest) ← readHexDigits? flags count text 0
    let c ← charOfCode? n
    return (.literal c (count == 2), rest)

/-- The text up to a closing brace, without ignored blanks. -/
def readBraced? (flags : PatternFlags) :
    (fuel : Nat) → List Char → (seen : List Char) → Option (List Char × List Char)
  | 0, _, _ => none
  | fuel + 1, text, seen =>
    match skip flags text with
    | '\x7d' :: rest => some (seen.reverse, rest)
    | c :: rest => readBraced? flags fuel rest (c :: seen)
    | [] => none

/-- Splits a text at the first occurrence of a separator. -/
def splitAt? (separator : List Char) : List Char → (seen : List Char) →
    Option (List Char × List Char)
  | [], _ => none
  | c :: rest, seen =>
    if separator.isPrefixOf (c :: rest) then
      some (seen.reverse, (c :: rest).drop separator.length)
    else splitAt? separator rest (c :: seen)

/-- The case-insensitive closure of a set, where the options ask for it. -/
def foldSet (flags : PatternFlags) (s : CharSet) : CharSet :=
  if flags.ignoreCase then (if flags.unicode then .folded s else .asciiFolded s) else s

/-- A set after closure and negation. -/
def finishSet? (flags : PatternFlags) (negated : Bool) (s : CharSet) : Option CharSet :=
  let folded := foldSet flags s
  let result := if negated then .negation folded else folded
  -- Over bytes a set has to stay within ASCII.
  if flags.unicode || result.isAscii then some result else none

/-- A set by name. -/
def readNamedSet? (flags : PatternFlags) (negated : Bool) (text : List Char) :
    Option (CharSet × List Char) := do
  let (negated, s, rest) ← match skip flags text with
    | '\x7b' :: rest => do
      let (name, rest) ← readBraced? flags (rest.length + 1) rest []
      -- The negated sign goes first: it holds the sign of equality.
      match splitAt? ['!', '='] name [] with
      | some (name, value) => (CharSet.ofNameValue? name value).map fun s => (!negated, s, rest)
      | none =>
        match splitAt? [':'] name [] <|> splitAt? ['='] name [] with
        | some (name, value) => (CharSet.ofNameValue? name value).map fun s => (negated, s, rest)
        | none => (CharSet.ofName? name).map fun s => (negated, s, rest)
    | c :: rest =>
      if c = '\\' then none
      else (CharSet.ofName? [c]).map fun s => (negated, s, skip flags rest)
    | [] => none
  if flags.unicode then
    let s ← finishSet? flags negated s
    return (s, rest)
  else none

/-- The digits, blanks or word characters, all of them or those of ASCII. -/
def shorthandSet (unicode : Bool) (letter : Char) : CharSet :=
  if unicode then
    match letter with
    | 'd' => .digit
    | 's' => .space
    | _ => .word
  else
    match letter with
    | 'd' => .ranges [(0x30, 0x39)]
    | 's' => .ranges [(9, 13), (0x20, 0x20)]
    | _ => .ranges [(0x30, 0x39), (0x41, 0x5A), (0x5F, 0x5F), (0x61, 0x7A)]

/-- A set by its letter; a capital letter gives the complement. -/
def readShorthand? (flags : PatternFlags) (letter : Char) : Option CharSet :=
  let s := shorthandSet flags.unicode (asciiLower letter)
  let result := if letter.isUpper then .negation s else s
  if flags.unicode || result.isAscii then some result else none

/-- The kinds of word boundary that are named between braces. -/
def namedBoundary? (name : List Char) (ascii : Bool) : Option Assertion :=
  if name = "start".toList then some (.wordStart ascii)
  else if name = "end".toList then some (.wordEnd ascii)
  else if name = "start-half".toList then some (.wordStartHalf ascii)
  else if name = "end-half".toList then some (.wordEndHalf ascii)
  else none

/-- Letters and hyphens up to any other character, without ignored blanks. -/
def takeBoundaryName (flags : PatternFlags) :
    (fuel : Nat) → List Char → (seen : List Char) → List Char × List Char
  | 0, text, seen => (seen.reverse, text)
  | fuel + 1, text, seen =>
    match text with
    | c :: rest =>
      if c.isAlpha || c == '-' then takeBoundaryName flags fuel (skip flags rest) (c :: seen)
      else (seen.reverse, text)
    | [] => (seen.reverse, [])

/-- A word boundary after its letter. -/
def readBoundary? (flags : PatternFlags) (text : List Char) : Option (Assertion × List Char) :=
  let ascii := !flags.unicode
  match text with
  | '\x7b' :: rest =>
    match skip flags rest with
    | [] => none
    | c :: inner =>
      if c.isAlpha || c == '-' then
        match takeBoundaryName flags (inner.length + 2) (c :: inner) [] with
        | (name, '\x7d' :: rest) => (namedBoundary? name ascii).map fun a => (a, rest)
        | _ => none
      -- Braces around anything but a name belong to a repetition.
      else some (.wordBoundary ascii, text)
  | _ => some (.wordBoundary ascii, text)

def readEscape? (flags : PatternFlags) : List Char → Option (Primitive × List Char)
  | [] => none
  | c :: rest =>
    let ascii := !flags.unicode
    if c = 'x' then readHex? flags 2 rest
    else if c = 'u' then readHex? flags 4 rest
    else if c = 'U' then readHex? flags 8 rest
    else if c = 'p' ∨ c = 'P' then
      (readNamedSet? flags (c == 'P') rest).map fun (s, rest) => (.set s, rest)
    else if "dswDSW".toList.contains c then (readShorthand? flags c).map fun s => (.set s, rest)
    else if isEscapable c then some (.literal c false, rest)
    else match c with
      | 'a' => some (.literal (Char.ofNat 7) false, rest)
      | 'f' => some (.literal (Char.ofNat 12) false, rest)
      | 't' => some (.literal '\t' false, rest)
      | 'n' => some (.literal '\n' false, rest)
      | 'r' => some (.literal '\r' false, rest)
      | 'v' => some (.literal (Char.ofNat 11) false, rest)
      | 'A' => some (.assertion .textStart, rest)
      | 'z' => some (.assertion .textEnd, rest)
      | 'b' => (readBoundary? flags rest).map fun (a, rest) => (.assertion a, rest)
      | 'B' => some (.assertion (.notWordBoundary ascii), rest)
      | '<' => some (.assertion (.wordStart ascii), rest)
      | '>' => some (.assertion (.wordEnd ascii), rest)
      | _ => none

/-! ## Sets between brackets -/

/-- The sets of ASCII characters that are named between `[:` and `:]`. -/
def asciiNames : List (String × List (Nat × Nat)) := [
  ("alnum", [(0x30, 0x39), (0x41, 0x5A), (0x61, 0x7A)]),
  ("alpha", [(0x41, 0x5A), (0x61, 0x7A)]),
  ("ascii", [(0, 0x7F)]),
  ("blank", [(9, 9), (0x20, 0x20)]),
  ("cntrl", [(0, 0x1F), (0x7F, 0x7F)]),
  ("digit", [(0x30, 0x39)]),
  ("graph", [(0x21, 0x7E)]),
  ("lower", [(0x61, 0x7A)]),
  ("print", [(0x20, 0x7E)]),
  ("punct", [(0x21, 0x2F), (0x3A, 0x40), (0x5B, 0x60), (0x7B, 0x7E)]),
  ("space", [(9, 13), (0x20, 0x20)]),
  ("upper", [(0x41, 0x5A)]),
  ("word", [(0x30, 0x39), (0x41, 0x5A), (0x5F, 0x5F), (0x61, 0x7A)]),
  ("xdigit", [(0x30, 0x39), (0x41, 0x46), (0x61, 0x66)])]

/-- A named set of ASCII characters after its opening bracket, negated or not. -/
def readAsciiName? (text : List Char) : Option (Bool × CharSet × List Char) :=
  match text with
  | ':' :: rest =>
    let (negated, rest) := match rest with
      | '^' :: rest => (true, rest)
      | rest => (false, rest)
    let name := rest.takeWhile (· != ':')
    match rest.dropWhile (· != ':') with
    | ':' :: ']' :: rest => (asciiNames.lookup (String.ofList name)).map
        fun rs => (negated, .ranges rs, rest)
    | _ => none
  | _ => none

/-- One item of a bracket, a character or a set. -/
def readItem? (flags : PatternFlags) : List Char → Option (Primitive × List Char)
  | '\\' :: rest => readEscape? flags rest
  | c :: rest => some (.literal c false, rest)
  | [] => none

/-- A character as a member of a set; over bytes only ASCII may be written. -/
def literalMember? (flags : PatternFlags) (c : Char) : Option Nat :=
  if flags.unicode || c.toNat < 0x80 then some c.toNat else none

/-- The character that decides whether a hyphen before it makes a range. -/
def afterHyphen? (flags : PatternFlags) (text : List Char) : Option Char :=
  if flags.ignoreBlanks then
    match trimStart text with
    -- A comment is not passed over here: its first character counts.
    | '#' :: rest => (trimStart rest).head?
    | rest => rest.head?
  else text.head?

/-- An item or a range of a bracket. -/
def readRange? (flags : PatternFlags) (text : List Char) : Option (CharSet × List Char) := do
  let (first, rest) ← readItem? flags text
  let rest := skip flags rest
  let plain : Option (CharSet × List Char) :=
    match first with
    | .literal c _ => (literalMember? flags c).map fun n => (.ranges [(n, n)], rest)
    | .set s => some (s, rest)
    | .assertion _ => none
  match rest with
  | [] => none
  | '-' :: after =>
    -- Before the end of the bracket or another hyphen, a hyphen makes no range.
    let decisive := afterHyphen? flags after
    if decisive = some ']' ∨ decisive = some '-' then plain
    else
      let (last, rest) ← readItem? flags (skip flags after)
      match first, last with
      | .literal a _, .literal b _ =>
        let first ← literalMember? flags a
        let last ← literalMember? flags b
        if first ≤ last then some (.ranges [(first, last)], rest) else none
      | _, _ => none
  | _ => plain

/-- The operations between parts of a bracket. -/
inductive SetOperation where
  | intersection
  | difference
  | symmetricDifference

/-- A set with the depth to which its parts are nested. -/
structure NestedSet where
  set : CharSet
  depth : Nat

/-- The union of members, last first; several of them are a container of their own. -/
def unionOfItems (items : List NestedSet) : NestedSet :=
  let depth := items.foldl (fun n item => max n item.depth) 0
  ⟨.unionOf (items.reverse.map (·.set)), if 1 < items.length then depth + 1 else depth⟩

/-- The members read last, combined with what stands before their operation. -/
def combine (flags : PatternFlags) (left : Option (NestedSet × SetOperation))
    (items : List NestedSet) : NestedSet :=
  let right := unionOfItems items
  match left with
  | none => right
  | some (left, operation) =>
    let a := foldSet flags left.set
    let b := foldSet flags right.set
    let depth := max left.depth right.depth + 1
    match operation with
    | .intersection => ⟨.intersection a b, depth⟩
    | .difference => ⟨.difference a b, depth⟩
    | .symmetricDifference => ⟨.symmetricDifference a b, depth⟩

/-- Hyphens at the start of a bracket, which stand for themselves. -/
def readHyphens (flags : PatternFlags) : (fuel : Nat) → List Char → (seen : List NestedSet) →
    List NestedSet × List Char
  | 0, text, seen => (seen, text)
  | fuel + 1, text, seen =>
    match text with
    | '-' :: rest => readHyphens flags fuel (skip flags rest) (⟨.singleton '-', 0⟩ :: seen)
    | text => (seen, text)

/-- What stands first in a bracket, with whether the bracket is negated. -/
def openBracket (flags : PatternFlags) (text : List Char) : Bool × List NestedSet × List Char :=
  let text := skip flags text
  let (negated, text) := match text with
    | '^' :: rest => (true, skip flags rest)
    | text => (false, text)
  let (items, text) := readHyphens flags (text.length + 1) text []
  match items, text with
  -- A closing bracket that comes first stands for itself.
  | [], ']' :: rest => (negated, [⟨.singleton ']', 0⟩], skip flags rest)
  | items, text => (negated, items, text)

/-- A set up to its closing bracket: `left` is what stands before the operation in force, `items`
the members since, last first. -/
def readBracket? (flags : PatternFlags) : (fuel : Nat) → (negated : Bool) →
    (left : Option (NestedSet × SetOperation)) → (items : List NestedSet) → List Char →
    Option (NestedSet × List Char)
  | 0, _, _, _, _ => none
  | fuel + 1, negated, left, items, text =>
    let go := fun item rest => readBracket? flags fuel negated left (item :: items) rest
    let operate := fun operation rest =>
      readBracket? flags fuel negated (some (combine flags left items, operation)) [] rest
    match skip flags text with
    | [] => none
    | ']' :: rest =>
      let whole := combine flags left items
      (finishSet? flags negated whole.set).map fun s => (⟨s, whole.depth + 1⟩, rest)
    | '&' :: '&' :: rest => operate .intersection rest
    | '-' :: '-' :: rest => operate .difference rest
    | '~' :: '~' :: rest => operate .symmetricDifference rest
    | '[' :: rest =>
      -- What is no name in full is a bracket within the bracket.
      match readAsciiName? rest with
      | some (negatedName, s, rest) =>
        (finishSet? flags negatedName s).bind fun s => go ⟨s, 0⟩ rest
      | none =>
        let (negatedInner, itemsInner, rest) := openBracket flags rest
        (readBracket? flags fuel negatedInner none itemsInner rest).bind
          fun (inner, rest) => go inner rest
    | text => (readRange? flags text).bind fun (s, rest) => go ⟨s, 0⟩ rest

/-! ## Groups -/

/-- A part of a sequence; a bare change of options cannot be repeated. -/
structure Part where
  expr : PatternExpr
  repeatable : Bool
  /-- How deep containers are nested in the part. -/
  depth : Nat

def nestLimit : Nat := 250

/-- Options after the question mark of a group, up to the colon or parenthesis: `letters` have been
given, `on` says whether the hyphen is still to come, and the last character was `dangling`. -/
def readFlags? : List Char → (flags : PatternFlags) → (letters : List Char) → (on dangling : Bool) →
    Option (PatternFlags × Bool × List Char)
  | [], _, _, _, _ => none
  | c :: rest, flags, letters, on, dangling =>
    if c = ':' ∨ c = ')' then
      if dangling then none else some (flags, letters.isEmpty && on, c :: rest)
    else if c = '-' then if on then readFlags? rest flags letters false true else none
    else if letters.contains c then none
    else (flags.set? c on).bind fun flags => readFlags? rest flags (c :: letters) on false

/-- Whether a character may stand in the name of a group. -/
def isNameChar (first : Bool) (c : Char) : Bool :=
  c == '_' || Property.isAlphabetic c ||
    (!first && (c == '.' || c == '[' || c == ']' ||
      Category.anyContains [.decimalNumber, .letterNumber, .otherNumber] c))

/-- The name of a group, up to its closing angle. -/
def readName? (text : List Char) : Option (List Char × List Char) :=
  let name := text.takeWhile (· != '>')
  match name, text.dropWhile (· != '>') with
  | first :: others, '>' :: rest =>
    if isNameChar true first && others.all (isNameChar false) then some (name, rest) else none
  | _, _ => none

def repeatPart (part : Part) (least : Nat) (most : Option Nat) : Part :=
  ⟨.repetition part.expr least most, true, part.depth + 1⟩

/-- Drops the mark that makes a repetition lazy; it does not change what matches. -/
def dropLazy : List Char → List Char
  | '?' :: rest => rest
  | text => text

/-- The bounds of a repetition after its opening brace, in order. -/
def readBounds? (flags : PatternFlags) (text : List Char) :
    Option (Nat × Option Nat × List Char) := do
  let text := skip flags text
  let (least, rest) ← readCount? flags text
  let (most, rest) ← match rest with
    | ',' :: rest =>
      match skip flags rest with
      | '\x7d' :: rest => some (none, '\x7d' :: rest)
      | rest => (readCount? flags rest).map fun (most, rest) => (some most, rest)
    | rest => some (some least, rest)
  match rest with
  | '\x7d' :: rest =>
    match most with
    | some m => if least ≤ m then some (least, most, dropLazy (skip flags rest)) else none
    | none => some (least, none, dropLazy (skip flags rest))
  | _ => none

/-- The expression of a primitive. -/
def exprOf? (flags : PatternFlags) : Primitive → Option PatternExpr
  | .literal c byte =>
    -- Over bytes, a byte beyond ASCII would match within a character.
    if !flags.unicode && byte && 0x80 ≤ c.toNat then none
    else some (.set (foldSet flags (.singleton c)))
  | .set s => some (.set s)
  | .assertion a => some (.assertion a)

def dot? (flags : PatternFlags) : Option PatternExpr :=
  if !flags.unicode then none
  else if flags.dotMatchesNewline then some (.set .all)
  else if flags.carriageReturn then
    some (.set (.negation (.ranges [(10, 10), (13, 13)])))
  else some (.set (.negation (.singleton '\n')))

/-- The assertions of the circumflex and the dollar sign. -/
def lineStart (flags : PatternFlags) : Assertion :=
  if flags.multiLine then (if flags.carriageReturn then .carriageLineStart else .lineStart)
  else .textStart

def lineEnd (flags : PatternFlags) : Assertion :=
  if flags.multiLine then (if flags.carriageReturn then .carriageLineEnd else .lineEnd)
  else .textEnd

/-- Parts, last first, as one part. -/
def sequenceParts (parts : List Part) : Part :=
  let depth := parts.foldl (fun n p => max n p.depth) 0
  ⟨.sequenceOf (parts.reverse.map (·.expr)), true, if 1 < parts.length then depth + 1 else depth⟩

/-- Branches, last first, as one part. -/
def choiceParts (branches : List Part) : Part :=
  let depth := branches.foldl (fun n p => max n p.depth) 0
  ⟨.choiceOf (branches.reverse.map (·.expr)), true,
    if 1 < branches.length then depth + 1 else depth⟩

def plain (expr : PatternExpr) : Part := ⟨expr, true, 0⟩

/-- A group up to its closing parenthesis or the end of the text.  `names` are the names given to
groups so far; `parts` and `branches` have been read, last first. -/
def readGroup? : (fuel : Nat) → PatternFlags → (names : List (List Char)) → (parts : List Part) →
    (branches : List Part) → List Char → Option (Part × List (List Char) × List Char)
  | 0, _, _, _, _, _ => none
  | fuel + 1, flags, names, parts, branches, text =>
    let go := fun (names : List (List Char)) (part : Part) (rest : List Char) =>
      readGroup? fuel flags names (part :: parts) branches rest
    let repeated := fun (least : Nat) (most : Option Nat) (rest : List Char) =>
      match parts with
      | part :: parts =>
        if part.repeatable then
          readGroup? fuel flags names (repeatPart part least most :: parts) branches rest
        else none
      | [] => none
    let inner := fun (kept : Bool) (flags : PatternFlags) (names : List (List Char))
        (rest : List Char) =>
      (readGroup? fuel flags names [] [] rest).bind fun (part, names, rest) =>
        match rest with
        | ')' :: rest =>
          go names ⟨if kept then .group part.expr else part.expr, part.repeatable, part.depth + 1⟩ rest
        | _ => none
    match skip flags text with
    | [] => some (choiceParts (sequenceParts parts :: branches), names, [])
    | ')' :: rest => some (choiceParts (sequenceParts parts :: branches), names, ')' :: rest)
    | '|' :: rest => readGroup? fuel flags names [] (sequenceParts parts :: branches) rest
    | '(' :: rest =>
      match skip flags rest with
      -- Look-around is not in the dialect.
      | '?' :: '=' :: _ => none
      | '?' :: '!' :: _ => none
      | '?' :: '<' :: '=' :: _ => none
      | '?' :: '<' :: '!' :: _ => none
      | '?' :: 'P' :: '<' :: rest =>
        (readName? rest).bind fun (name, rest) =>
          if names.contains name then none else inner true flags (name :: names) rest
      | '?' :: '<' :: rest =>
        (readName? rest).bind fun (name, rest) =>
          if names.contains name then none else inner true flags (name :: names) rest
      | '?' :: rest =>
        (readFlags? rest flags [] true false).bind fun (changed, unchanged, rest) =>
          match rest with
          | ')' :: rest =>
            if unchanged then none
            -- The change stays in force up to the end of the group, across its branches.
            else readGroup? fuel changed names (⟨.empty, false, 0⟩ :: parts) branches rest
          | _ :: rest => inner false changed names rest
          | [] => none
      | rest => inner true flags names rest
    | '[' :: rest =>
      let (negated, items, rest) := openBracket flags rest
      (readBracket? flags (rest.length + 1) negated none items rest).bind
        fun (s, rest) => go names ⟨.set s.set, true, s.depth⟩ rest
    | '?' :: rest => repeated 0 (some 1) (dropLazy rest)
    | '*' :: rest => repeated 0 none (dropLazy rest)
    | '+' :: rest => repeated 1 none (dropLazy rest)
    | '\x7b' :: rest => (readBounds? flags rest).bind fun (least, most, rest) =>
        repeated least most rest
    | '\\' :: rest => (readEscape? flags rest).bind fun (primitive, rest) =>
        (exprOf? flags primitive).bind fun e => go names (plain e) rest
    | '.' :: rest => (dot? flags).bind fun e => go names (plain e) rest
    | '^' :: rest => go names (plain (.assertion (lineStart flags))) rest
    | '$' :: rest => go names (plain (.assertion (lineEnd flags))) rest
    | c :: rest => (exprOf? flags (.literal c false)).bind fun e => go names (plain e) rest

end PatternReader

/-- The expression of a pattern text, or `none` when it is none. -/
def PatternExpr.read? (text : List Char) : Option PatternExpr :=
  match PatternReader.readGroup? (text.length + 1) .initial [] [] [] text with
  | some (part, _, []) => if part.depth ≤ PatternReader.nestLimit then some part.expr else none
  | _ => none

end Conform
