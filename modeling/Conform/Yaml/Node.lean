import Conform.Yaml.Token

/-!
# Nodes of YAML texts

The tokens of a text make one document: a tree of scalars, sequences and mappings, in which nodes
may be named by anchors and repeated by aliases.  An anchor is numbered by how many distinct names
came before it, and an alias means the number that its name has at that point.  This file defines:

* `YamlNode`, with `eventCount` and `anchored`;
* `Parse`: reading tokens, and the state that it keeps;
* `parseNode?` and its companions, one for each kind of collection;
* `YamlNode.ofTokens?`: the document of a stream that has at most one.
-/

namespace Conform

/-- What may stand before the content of a node. -/
structure YamlProperties where
  anchor : Option Nat := none
  tag : Option (List UInt8) := none

/-- A node of a document. -/
inductive YamlNode where
  | reference (anchor : Nat)
  | scalar (properties : YamlProperties) (text : List Char) (isPlain : Bool)
  | sequence (properties : YamlProperties) (items : List YamlNode)
  | mapping (properties : YamlProperties) (pairs : List (YamlNode × YamlNode))

namespace YamlNode

/-- The node that stands where nothing is written. -/
def empty : YamlNode := .scalar {} [] true

mutual

/-- How many marks a node leaves in the text: one for each scalar and alias, two for the ends of
each collection. -/
def eventCount : YamlNode → Nat
  | reference _ => 1
  | scalar _ _ _ => 1
  | sequence _ items => 2 + itemEventCount items
  | mapping _ pairs => 2 + pairEventCount pairs

def itemEventCount : List YamlNode → Nat
  | [] => 0
  | item :: rest => item.eventCount + itemEventCount rest

def pairEventCount : List (YamlNode × YamlNode) → Nat
  | [] => 0
  | (key, value) :: rest => key.eventCount + value.eventCount + pairEventCount rest

end

/-- A node under its anchor, if it has one. -/
def named (properties : YamlProperties) (node : YamlNode) : List (Nat × YamlNode) :=
  (properties.anchor.map fun anchor => (anchor, node)).toList

mutual

/-- The anchored nodes at or below a node, in the order in which they start. -/
def anchored : YamlNode → List (Nat × YamlNode)
  | reference _ => []
  | scalar properties text isPlain => named properties (scalar properties text isPlain)
  | sequence properties items => named properties (sequence properties items) ++ anchoredItems items
  | mapping properties pairs => named properties (mapping properties pairs) ++ anchoredPairs pairs

def anchoredItems : List YamlNode → List (Nat × YamlNode)
  | [] => []
  | item :: rest => item.anchored ++ anchoredItems rest

def anchoredPairs : List (YamlNode × YamlNode) → List (Nat × YamlNode)
  | [] => []
  | (key, value) :: rest => key.anchored ++ value.anchored ++ anchoredPairs rest

end

end YamlNode

namespace Yaml

/-! ## Reading tokens -/

/-- What is left to read, with the handles of tags and the names of anchors so far. -/
structure ParseState where
  tokens : List Token
  handles : List (List Char × List UInt8) := []
  names : List (List Char × Nat) := []

abbrev Parse := StateT ParseState Option

def peek : Parse Token := do
  let s ← get
  match s.tokens with
  | token :: _ => return token
  | [] => failure

def advance : Parse Unit := modify fun s => { s with tokens := s.tokens.drop 1 }

/-- The number of a new anchor of this name. -/
def newAnchor (name : List Char) : Parse Nat := do
  let s ← get
  -- A name that is taken again means its last node from here on.
  let others := s.names.filter (·.1 != name)
  set { s with names := (name, s.names.length) :: others }
  return s.names.length

def anchorOf (name : List Char) : Parse Nat := do
  match (← get).names.find? (·.1 == name) with
  | some (_, anchor) => return anchor
  | none => failure

def wholeTag (tag : TagText) : Parse (List UInt8) := do
  match tag.resolve? (← get).handles with
  | some tag => return tag
  | none => failure

/-- An anchor and a tag in either order, each at most once. -/
def parseProperties : Parse (Option (List Char) × Option TagText) := do
  match ← peek with
  | .anchor name =>
    advance
    match ← peek with
    | .tag tag => advance; return (some name, some tag)
    | _ => return (some name, none)
  | .tag tag =>
    advance
    match ← peek with
    | .anchor name => advance; return (some name, some tag)
    | _ => return (none, some tag)
  | _ => return (none, none)

/-- The number of the anchor and the whole tag, as properties of a node that starts here. -/
def startNode (anchor : Option (List Char)) (tag : Option (List UInt8)) :
    Parse YamlProperties := do
  match anchor with
  | some name => return ⟨some (← newAnchor name), tag⟩
  | none => return ⟨none, tag⟩

/-! ## Nodes -/

/-- Tokens that stand where an item of a block would. -/
def endsItem : Token → Bool
  | .blockEntry | .blockEnd => true
  | _ => false

/-- Tokens that stand where an item of a sequence without indentation would. -/
def endsIndentlessItem : Token → Bool
  | .blockEntry | .key | .value | .blockEnd => true
  | _ => false

/-- Tokens that stand where a key or a value of a block would. -/
def endsPart : Token → Bool
  | .key | .value | .blockEnd => true
  | _ => false

/-- Tokens that stand where a key of a flow collection with the given end would. -/
def endsFlowKey (last token : Token) : Bool :=
  token == .value || token == .flowEntry || token == last

/-- Tokens that stand where a value of a flow collection with the given end would. -/
def endsFlowValue (last token : Token) : Bool := token == .flowEntry || token == last

/-- The node that `parse` reads, or the empty one when the next token stands in its place. -/
def unlessAt (stop : Token → Bool) (parse : Parse YamlNode) : Parse YamlNode := do
  if stop (← peek) then return .empty else parse

/-- The value after a colon, or the empty node when there is no colon. -/
def parseValue (stop : Token → Bool) (parse : Parse YamlNode) : Parse YamlNode := do
  match ← peek with
  | .value => advance; unlessAt stop parse
  | _ => return .empty

mutual

/-- A node.  Blocks may only start where `block` holds, and where `indentless` holds a sequence may
start without indentation. -/
def parseNode : (fuel : Nat) → (block indentless : Bool) → Parse YamlNode
  | 0, _, _ => failure
  | fuel + 1, block, indentless => do
    if let .reference name ← peek then
      advance
      return .reference (← anchorOf name)
    let (anchor, written) ← parseProperties
    let tag ← match written with
      | some tag => some <$> wholeTag tag
      | none => pure none
    match ← peek, block, indentless with
    -- As a value of a mapping a sequence needs no indentation of its own.
    | .blockEntry, _, true =>
      return .sequence (← startNode anchor tag) (← parseIndentlessItems fuel)
    | .scalar text isPlain, _, _ =>
      advance
      -- An exclamation mark alone leaves a scalar as it is.
      return .scalar (← startNode anchor (if tag = some [0x21] then none else tag)) text isPlain
    | .flowSequenceStart, _, _ =>
      advance
      return .sequence (← startNode anchor tag) (← parseFlowItems fuel true)
    | .flowMappingStart, _, _ =>
      advance
      return .mapping (← startNode anchor tag) (← parseFlowPairs fuel true)
    | .blockSequenceStart, true, _ =>
      advance
      return .sequence (← startNode anchor tag) (← parseBlockItems fuel)
    | .blockMappingStart, true, _ =>
      advance
      return .mapping (← startNode anchor tag) (← parseBlockPairs fuel)
    | _, _, _ =>
      -- An anchor or a tag alone makes a node of nothing.
      if anchor.isNone && tag.isNone then failure
      return .scalar (← startNode anchor tag) [] true

def parseBlockItems : (fuel : Nat) → Parse (List YamlNode)
  | 0 => failure
  | fuel + 1 => do
    match ← peek with
    | .blockEntry =>
      advance
      let item ← unlessAt endsItem (parseNode fuel true false)
      return item :: (← parseBlockItems fuel)
    | .blockEnd => advance; return []
    | _ => failure

/-- The items of a sequence at the indentation of the mapping around it. -/
def parseIndentlessItems : (fuel : Nat) → Parse (List YamlNode)
  | 0 => failure
  | fuel + 1 => do
    match ← peek with
    | .blockEntry =>
      advance
      let item ← unlessAt endsIndentlessItem (parseNode fuel true false)
      return item :: (← parseIndentlessItems fuel)
    | _ => return []

def parseBlockPairs : (fuel : Nat) → Parse (List (YamlNode × YamlNode))
  | 0 => failure
  | fuel + 1 => do
    match ← peek with
    | .key =>
      advance
      let key ← unlessAt endsPart (parseNode fuel true true)
      let value ← parseValue endsPart (parseNode fuel true true)
      return (key, value) :: (← parseBlockPairs fuel)
    | .blockEnd => advance; return []
    | _ => failure

/-- The items of a flow sequence; the last may be followed by a comma. -/
def parseFlowItems : (fuel : Nat) → (first : Bool) → Parse (List YamlNode)
  | 0, _ => failure
  | fuel + 1, first => do
    -- All items but the first stand after a comma.
    if !first && (← peek) != .flowSequenceEnd then
      if (← peek) == .flowEntry then advance else failure
    match ← peek with
    | .flowSequenceEnd => advance; return []
    -- An item may be a single pair without braces.
    | .key =>
      advance
      let pair ← parseFlowPair fuel
      return .mapping {} [pair] :: (← parseFlowItems fuel false)
    | _ =>
      let item ← parseNode fuel false false
      return item :: (← parseFlowItems fuel false)

/-- A single pair within a flow sequence. -/
def parseFlowPair : (fuel : Nat) → Parse (YamlNode × YamlNode)
  | 0 => failure
  | fuel + 1 => do
    -- Where the key is missing the next token is lost.
    let key ←
      if endsFlowKey .flowSequenceEnd (← peek) then do advance; pure YamlNode.empty
      else parseNode fuel false false
    let value ← parseValue (endsFlowValue .flowSequenceEnd) (parseNode fuel false false)
    return (key, value)

/-- The pairs of a flow mapping. -/
def parseFlowPairs : (fuel : Nat) → (first : Bool) → Parse (List (YamlNode × YamlNode))
  | 0, _ => failure
  | fuel + 1, first => do
    if !first && (← peek) != .flowMappingEnd then
      if (← peek) == .flowEntry then advance else failure
    match ← peek with
    | .flowMappingEnd => advance; return []
    | .key =>
      advance
      let key ← unlessAt (endsFlowKey .flowMappingEnd) (parseNode fuel false false)
      let value ← parseValue (endsFlowValue .flowMappingEnd) (parseNode fuel false false)
      return (key, value) :: (← parseFlowPairs fuel false)
    -- A key that neither a question mark nor a colon marks has an empty value.
    | _ =>
      let key ← parseNode fuel false false
      return (key, .empty) :: (← parseFlowPairs fuel false)

end

/-! ## Documents -/

/-- The directives before a document: at most one version, and each handle once. -/
def parseDirectives : (fuel : Nat) → (versioned : Bool) → Parse Unit
  | 0, _ => failure
  | fuel + 1, versioned => do
    match ← peek with
    | .directive (.version major minor) =>
      -- The version has to be a known one.
      if versioned || major != 1 || (minor != 1 && minor != 2) then failure
      advance
      parseDirectives fuel true
    | .directive (.handle handle expansion) =>
      let s ← get
      if s.handles.any (·.1 == handle) then failure
      set { s with handles := s.handles ++ [(handle, expansion)] }
      advance
      parseDirectives fuel versioned
    | _ => return ()

/-- Tokens that stand where the content of a document would. -/
def endsContent : Token → Bool
  | .directive _ | .documentStart | .documentEnd | .streamEnd => true
  | _ => false

/-- Moves over the markers that end a document. -/
def skipDocumentEnds : (fuel : Nat) → Parse Unit
  | 0 => return ()
  | fuel + 1 => do
    if (← peek) == .documentEnd then
      advance
      skipDocumentEnds fuel

/-- The only document of a stream; nothing at all is an empty one. -/
def parseStream (fuel : Nat) : Parse YamlNode := do
  let node ← match ← peek with
    | .streamEnd => pure YamlNode.empty
    | .directive _ | .documentStart => do
      parseDirectives fuel false
      if (← peek) != .documentStart then failure
      advance
      unlessAt endsContent (parseNode fuel true false)
    | _ => parseNode fuel true false
  skipDocumentEnds fuel
  if (← peek) != .streamEnd then failure
  return node

end Yaml

def YamlNode.ofTokens? (tokens : List Yaml.Token) : Option YamlNode :=
  ((Yaml.parseStream (2 * tokens.length + 2)).run { tokens }).map (·.1)

end Conform
