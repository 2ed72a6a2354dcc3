import Conform.Yaml.ScalarText
import Conform.Yaml.Tag

/-!
# Tokens of YAML texts

Tokens make the structure of a text explicit: where blocks start and end by indentation, and which
scalars turn out to be keys because a colon follows them.  A node may become a key as long as it
stays on one line and is short; then the token that announces the key is put before it.  This file
defines:

* `Token`;
* `KeyPlace`: where a node stands that may become a key;
* `Scanner`: the state of reading, with one step per kind of token;
* `scan?`: the tokens of a text.
-/

namespace Conform

namespace Yaml

/-- A token. -/
inductive Token where
  | streamEnd
  | directive (directive : Directive)
  | documentStart
  | documentEnd
  | blockSequenceStart
  | blockMappingStart
  | blockEnd
  | flowSequenceStart
  | flowSequenceEnd
  | flowMappingStart
  | flowMappingEnd
  | blockEntry
  | flowEntry
  | key
  | value
  | reference (name : List Char)
  | anchor (name : List Char)
  | tag (tag : TagText)
  | scalar (text : List Char) (isPlain : Bool)
  deriving DecidableEq

/-- Where a node stands that may become a key. -/
structure KeyPlace where
  /-- Whether the block cannot go on unless it does. -/
  required : Bool
  /-- The number of tokens before it. -/
  position : Nat
  index : Nat
  line : Nat
  column : Nat

/-- The state of reading. -/
structure Scanner where
  cursor : Cursor
  tokens : Array Token := #[]
  /-- The column of the innermost block, `-1` outside of all blocks. -/
  indent : Int := -1
  /-- The columns of the blocks around it. -/
  indents : List Int := []
  /-- Whether a key may start here. -/
  keyAllowed : Bool := true
  /-- The possible key at the innermost level. -/
  key : Option KeyPlace := none
  /-- The possible keys at the levels around it, one for each open flow collection. -/
  outer : List (Option KeyPlace) := []

namespace Scanner

def inFlow (s : Scanner) : Bool := !s.outer.isEmpty

def emit (s : Scanner) (token : Token) : Scanner := { s with tokens := s.tokens.push token }

/-- Moves over characters of a line and adds a token for them. -/
def take (s : Scanner) (count : Nat) (token : Token) : Scanner :=
  { s with cursor := s.cursor.skip count, tokens := s.tokens.push token }

/-- Puts a token before the one at a position. -/
def put (s : Scanner) (position : Nat) (token : Token) : Scanner :=
  { s with tokens := s.tokens.insertIdxIfInBounds position token }

/-! ## Possible keys -/

/-- A key has to end on its line and within 1024 characters. -/
def isStale (cursor : Cursor) (place : KeyPlace) : Bool :=
  decide (place.line < cursor.line ∨ place.index + 1024 < cursor.index)

/-- Gives up a possible key that came too late. -/
def freshKey? (cursor : Cursor) : Option KeyPlace → Option (Option KeyPlace)
  | none => some none
  | some place =>
    -- A key that is required cannot be given up, so the text is in error.
    if isStale cursor place then (if place.required then none else some none)
    else some (some place)

/-- Gives up all possible keys that came too late. -/
def dropStale? (s : Scanner) : Option Scanner := do
  let key ← freshKey? s.cursor s.key
  let outer ← s.outer.mapM (freshKey? s.cursor)
  return { s with key, outer }

/-- Gives up the possible key at the innermost level. -/
def dropKey? (s : Scanner) : Option Scanner :=
  match s.key with
  | some place => if place.required then none else some { s with key := none }
  | none => some s

/-- Notes that what starts here may become a key. -/
def saveKey? (s : Scanner) : Option Scanner :=
  if s.keyAllowed then do
    -- At the column of its block nothing but a key can go on with the block.
    let required := !s.inFlow && s.indent == (s.cursor.column : Int)
    let place : KeyPlace :=
      ⟨required, s.tokens.size, s.cursor.index, s.cursor.line, s.cursor.column⟩
    let s ← s.dropKey?
    return { s with key := some place }
  else some s

def allowKey (s : Scanner) (allowed : Bool) : Scanner := { s with keyAllowed := allowed }

/-! ## Blocks -/

/-- Ends the blocks that stand to the right of a column. -/
def closeBlocks (column indent : Int) : List Int → Array Token → Int × List Int × Array Token
  | [], tokens => (indent, [], tokens)
  | around :: indents, tokens =>
    if column < indent then closeBlocks column around indents (tokens.push .blockEnd)
    else (indent, around :: indents, tokens)

/-- Ends the blocks of a reader that stand to the right of a column. -/
def unroll (s : Scanner) (column : Int) : Scanner :=
  -- Within flow collections columns do not matter.
  if s.inFlow then s
  else
    let (indent, indents, tokens) := closeBlocks column s.indent s.indents s.tokens
    { s with indent, indents, tokens }

/-- Starts a block at a column unless one stands there; its token is put at the given position. -/
def roll (s : Scanner) (column : Nat) (position : Nat) (token : Token) : Scanner :=
  if !s.inFlow && s.indent < column then
    { s.put position token with indent := column, indents := s.indent :: s.indents }
  else s

/-! ## Blanks -/

/-- Moves to the next token. -/
def toNext : (fuel : Nat) → Scanner → Scanner
  | 0, s => s
  | fuel + 1, s =>
    -- A mark of byte order at the start of the text is passed over.
    let cursor := if s.cursor.index = 0 && s.cursor.rest.head? == some '\uFEFF'
      then s.cursor.skip 1 else s.cursor
    -- Where a key may start no tab may stand before it.
    let tabs := s.inFlow || !s.keyAllowed
    let cursor := (cursor.skipWhile fun c => c == ' ' || (tabs && c == '\t')).skipComment
    if cursor.atBreak then
      -- A new line may start a key, except within flow collections.
      toNext fuel { s with cursor := cursor.skipBreak, keyAllowed := s.keyAllowed || !s.inFlow }
    else { s with cursor }

/-! ## Tokens -/

/-- Leaves all blocks, as before directives and markers of documents. -/
def leaveBlocks? (s : Scanner) : Option Scanner := do
  let s ← (s.unroll (-1)).dropKey?
  return s.allowKey false

def streamEnd? (s : Scanner) : Option Scanner := do
  return (← s.leaveBlocks?).emit .streamEnd

def directive? (s : Scanner) : Option Scanner := do
  let s ← s.leaveBlocks?
  let (cursor, directive) ← readDirective? s.cursor
  return { s.emit (.directive directive) with cursor }

def marker? (s : Scanner) (token : Token) : Option Scanner := do
  return (← s.leaveBlocks?).take 3 token

def flowStart? (s : Scanner) (token : Token) : Option Scanner := do
  let s ← s.saveKey?
  return ({ s with key := none, outer := s.key :: s.outer }.allowKey true).take 1 token

def flowEnd? (s : Scanner) (token : Token) : Option Scanner := do
  let s ← s.dropKey?
  let s := match s.outer with
    | key :: outer => { s with key, outer }
    | [] => s
  return (s.allowKey false).take 1 token

def flowEntry? (s : Scanner) : Option Scanner := do
  return ((← s.dropKey?).allowKey true).take 1 .flowEntry

/-- Starts the block of an entry, unless it has been started before. -/
def startEntry? (s : Scanner) (token : Token) : Option Scanner :=
  if s.inFlow then some s
  -- An entry of a block stands where a key could start.
  else if s.keyAllowed then some (s.roll s.cursor.column s.tokens.size token)
  else none

def blockEntry? (s : Scanner) : Option Scanner := do
  let s ← (← s.startEntry? .blockSequenceStart).dropKey?
  return (s.allowKey true).take 1 .blockEntry

def key? (s : Scanner) : Option Scanner := do
  let s ← (← s.startEntry? .blockMappingStart).dropKey?
  return (s.allowKey !s.inFlow).take 1 .key

/-- A colon before a value. -/
def value? (s : Scanner) : Option Scanner :=
  match s.key with
  | some place =>
    -- What may be a key becomes one: its tokens go before what has been read of it.
    let s := (s.put place.position .key).roll place.column place.position .blockMappingStart
    some (({ s with key := none }.allowKey false).take 1 .value)
  | none => do
    let s ← s.startEntry? .blockMappingStart
    return (s.allowKey !s.inFlow).take 1 .value

/-- Characters that may follow a name without a gap. -/
def endsName (text : List Char) : Bool :=
  atGap text || text.head?.any fun c => ['?', ':', ',', ']', '\x7d', '%', '@', '\x60'].contains c

def name? (s : Scanner) (token : List Char → Token) : Option Scanner := do
  let s ← s.saveKey?
  let cursor := s.cursor.skip 1
  let name := cursor.rest.takeWhile isNameChar
  let cursor := cursor.skip name.length
  if name.isEmpty || !endsName cursor.rest then none
  return { (s.allowKey false).emit (token name) with cursor }

def tag? (s : Scanner) : Option Scanner := do
  let s ← s.saveKey?
  let (cursor, tag) ← readTag? s.inFlow s.cursor
  return { (s.allowKey false).emit (.tag tag) with cursor }

/-- The first column of what belongs to the innermost block. -/
def inner (s : Scanner) : Nat := (s.indent + 1).toNat

def blockScalar? (s : Scanner) (literal : Bool) : Option Scanner := do
  let s ← s.dropKey?
  let (cursor, text) ← block? literal s.inner s.cursor
  return { (s.allowKey true).emit (.scalar text false) with cursor }

def quotedScalar? (s : Scanner) (single : Bool) : Option Scanner := do
  let s ← s.saveKey?
  let (cursor, text) ← quoted? single s.cursor
  return { (s.allowKey false).emit (.scalar text false) with cursor }

/-- A plain scalar. -/
def plainScalar? (s : Scanner) : Option Scanner := do
  let s ← s.saveKey?
  let (cursor, text, broken) ← plain? s.inFlow s.inner s.cursor
  -- When a line break follows it, a key may start after it.
  return { (s.allowKey broken).emit (.scalar text true) with cursor }

/-- Characters that mean something at the start of a token. -/
def isIndicator (c : Char) : Bool :=
  ['-', '?', ':', ',', '[', ']', '\x7b', '\x7d', '#', '&', '*', '!', '|', '>', '\'', '"', '%', '@',
    '\x60'].contains c

/-- The next token, at a character that is no blank. -/
def token? (s : Scanner) (c : Char) (rest : List Char) : Option Scanner :=
  let spaced := s.inFlow || atGap rest
  match c with
  | '[' => s.flowStart? .flowSequenceStart
  | '\x7b' => s.flowStart? .flowMappingStart
  | ']' => s.flowEnd? .flowSequenceEnd
  | '\x7d' => s.flowEnd? .flowMappingEnd
  | ',' => s.flowEntry?
  | '-' =>
    if atGap rest then s.blockEntry? else s.plainScalar?
  | '?' => if spaced then s.key? else s.plainScalar?
  | ':' => if spaced then s.value? else s.plainScalar?
  | '*' => s.name? .reference
  | '&' => s.name? .anchor
  | '!' => s.tag?
  | '|' => if s.inFlow then none else s.blockScalar? true
  | '>' => if s.inFlow then none else s.blockScalar? false
  | '\'' => s.quotedScalar? true
  | '"' => s.quotedScalar? false
  | c => if isGap c || isBreak c || isIndicator c then none else s.plainScalar?

/-- The next token, or the tokens that end blocks before it. -/
def next? (s : Scanner) : Option Scanner := do
  let s := s.toNext (s.cursor.rest.length + 1)
  let s ← s.dropStale?
  let s := s.unroll s.cursor.column
  match s.cursor.rest with
  | [] => s.streamEnd?
  | c :: rest =>
    if s.cursor.column = 0 ∧ c = '%' then s.directive?
    else if s.cursor.atDocumentMarker then
      s.marker? (if c = '-' then .documentStart else .documentEnd)
    else s.token? c rest

/-- Reads tokens up to the end of the text. -/
def run? : (fuel : Nat) → Scanner → Option (List Token)
  | 0, _ => none
  | fuel + 1, s => do
    let s ← s.next?
    if s.tokens.back? = some .streamEnd then return s.tokens.toList
    run? fuel s

end Scanner

def scan? (text : List Char) : Option (List Token) :=
  if text.all isAllowed then
    Scanner.run? (text.length + 1) { cursor := .start text }
  else none

end Yaml

end Conform
