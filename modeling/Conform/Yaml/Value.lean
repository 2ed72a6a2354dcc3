import Conform.Json.Basic
import Conform.Yaml.Node

/-!
# Values of YAML documents

A node denotes a value: plain scalars are read as numbers and words where they look like them, a
local tag stays with its value, and aliases stand for what they repeat.  This file defines:

* `YamlValue`, with `YamlValue.same`;
* `plainValue?`, `scalarValue?`: what a scalar denotes;
* `YamlNode.value?`: what a node denotes, within limits on nesting and repetition;
* `YamlValue.toJson?`: the same value as a JSON document.
-/

namespace Conform

/-- A value of a document. -/
inductive YamlValue where
  | null
  | bool (value : Bool)
  | number (value : Json.Number)
  | infinite (negative : Bool)
  | undefined
  | string (value : String)
  | sequence (items : List YamlValue)
  | mapping (pairs : List (YamlValue × YamlValue))
  | tagged (tag : String) (value : YamlValue)

namespace YamlValue

/-! ## Equality -/

mutual

/-- Equality of values, without regard to the order of pairs. -/
def same : YamlValue → YamlValue → Bool
  | null, null => true
  | bool a, bool b => a == b
  | number a, number b => a.same b
  | infinite a, infinite b => a == b
  | undefined, undefined => true
  | string a, string b => a == b
  | sequence as, sequence bs => sameItems as bs
  | mapping as, mapping bs => as.length == bs.length && samePairs as bs
  | tagged s a, tagged t b => s == t && same a b
  | _, _ => false

def sameItems : List YamlValue → List YamlValue → Bool
  | [], [] => true
  | a :: as, b :: bs => same a b && sameItems as bs
  | _, _ => false

/-- Every pair of the first list has an equal one in the second. -/
def samePairs : List (YamlValue × YamlValue) → List (YamlValue × YamlValue) → Bool
  | [], _ => true
  | (key, value) :: rest, bs =>
    bs.any (fun (k, v) => same key k && same value v) && samePairs rest bs

end

def distinctKeys : List (YamlValue × YamlValue) → Bool
  | [] => true
  | (key, _) :: rest => !rest.any (fun (k, _) => key.same k) && distinctKeys rest

end YamlValue

namespace Yaml

/-! ## Scalars -/

/-- The words for the absence of a value. -/
def isNullWord (text : String) : Bool :=
  text == "null" || text == "Null" || text == "NULL" || text == "~"

def boolWord? (text : String) : Option Bool :=
  if text = "true" ∨ text = "True" ∨ text = "TRUE" then some true
  else if text = "false" ∨ text = "False" ∨ text = "FALSE" then some false
  else none

/-- A number written with a leading zero, which is read as a string. -/
def hasLeadingZero (text : List Char) : Bool :=
  let digits := match text with
    | '-' :: rest | '+' :: rest => rest
    | text => text
  match digits with
  | '0' :: c :: rest => (c :: rest).all Char.isDigit
  | _ => false

/-- The number that digits of a base denote, at least one. -/
def inBase? (base : Nat) (digits : List Char) : Option Nat :=
  if digits.isEmpty then none
  else digits.foldlM (fun n c => match hexDigit? c with
    | some d => if d < base then some (n * base + d) else none
    | none => none) 0

/-- The magnitude of an integer without its sign, in base 16, 8, 2 or 10. -/
def magnitude? : List Char → Option Nat
  | '0' :: 'x' :: digits => inBase? 16 digits
  | '0' :: 'o' :: digits => inBase? 8 digits
  | '0' :: 'b' :: digits => inBase? 2 digits
  | digits => inBase? 10 digits

def integer? (text : List Char) : Option Int :=
  if hasLeadingZero text then none
  else match text with
    | '-' :: rest => (magnitude? rest).map fun n => -(n : Int)
    | '+' :: rest => (magnitude? rest).map fun n => (n : Int)
    | text => (magnitude? text).map fun n => (n : Int)

/-- What an integer comes to. -/
inductive IntegerReading where
  | value (n : Json.Number)
  | tooLarge
  | noInteger

/-- What a text comes to as an integer. -/
def readInteger (text : List Char) : IntegerReading :=
  match integer? text with
  | some n =>
    if h : Json.InIntegerRange n then .value (.integer n h)
    -- An integer of up to 128 bits is an error, and one of more bits no integer at all.
    else if -2 ^ 127 ≤ n ∧ n < 2 ^ 128 then .tooLarge
    else .noInteger
  | none => .noInteger

/-- The floating-point number that a text denotes; one that is too large is none. -/
def float? (text : List Char) : Option YamlValue :=
  let unsigned := match text with
    | '+' :: '+' :: _ | '+' :: '-' :: _ => none
    | '+' :: rest => some rest
    | text => some text
  unsigned.bind fun body =>
    let word := String.ofList body
    let whole := String.ofList text
    if word = ".inf" ∨ word = ".Inf" ∨ word = ".INF" then some (.infinite false)
    else if whole = "-.inf" ∨ whole = "-.Inf" ∨ whole = "-.INF" then some (.infinite true)
    else if whole = ".nan" ∨ whole = ".NaN" ∨ whole = ".NAN" then some .undefined
    else match Numeral.read? body with
      -- A number that is too large is none, and so is an infinity in words of another format.
      | some (.finite x) => some (.number (.float x))
      | _ => none

def plainValue? (text : List Char) : Option YamlValue :=
  let word := String.ofList text
  if text.isEmpty || isNullWord word then some .null
  else match boolWord? word with
    | some b => some (.bool b)
    | none =>
      match readInteger text with
      | .value n => some (.number n)
      | .tooLarge => none
      | .noInteger =>
        if hasLeadingZero text then some (.string word)
        else some ((float? text).getD (.string word))

/-- What a scalar with a standard tag denotes; the text has to be one of the type. -/
def standardValue? (tag : String) (text : List Char) : Option (Option YamlValue) :=
  if tag = "tag:yaml.org,2002:bool" then some ((boolWord? (String.ofList text)).map .bool)
  else if tag = "tag:yaml.org,2002:int" then
    some (match readInteger text with
      | .value n => some (.number n)
      | _ => none)
  else if tag = "tag:yaml.org,2002:float" then some (float? text)
  else if tag = "tag:yaml.org,2002:null" then
    some (if isNullWord (String.ofList text) then some .null else none)
  else none

/-- The text of a tag, if its bytes make one. -/
def tagString? (tag : List UInt8) : Option String := String.fromUTF8? ⟨tag.toArray⟩

/-- The name of a local tag, which starts with an exclamation mark. -/
def localTag? : Option (List UInt8) → Option String
  | some (0x21 :: rest) => tagString? rest
  | _ => none

/-- What a scalar denotes; `named` says that its tag has been taken off already. -/
def scalarValue? (tag : Option (List UInt8)) (named : Bool) (text : List Char) (isPlain : Bool) :
    Option YamlValue :=
  let untyped := if isPlain then plainValue? text else some (.string (String.ofList text))
  if named then untyped
  else match tag with
    | none => untyped
    -- A local tag does not change how the text is read.
    | some (0x21 :: _) => untyped
    | some tag => ((tagString? tag).bind (standardValue? · text)).getD
        (some (.string (String.ofList text)))

/-! ## Nodes -/

/-- What is known of the whole document: its anchored nodes, and how often aliases may be
followed. -/
structure Scope where
  anchored : List (Nat × YamlNode)
  jumpLimit : Nat

/-- How a local tag is written: with one exclamation mark before its name. -/
def tagText (name : String) : String :=
  match name.toList with
  | '!' :: c :: rest => String.ofList ('!' :: c :: rest)
  | _ => "!" ++ name

/-- A value under a local tag, if there is one; the tag has to have a name. -/
def underTag (tag : Option (List UInt8)) (value : Bool → StateT Nat Option YamlValue) :
    StateT Nat Option YamlValue := do
  match localTag? tag with
  | some name =>
    if name.isEmpty then failure
    return .tagged (tagText name) (← value true)
  | none => value false

/-- Follows an alias; the state counts how often that was done. -/
def follow (scope : Scope) : YamlNode → StateT Nat Option YamlNode
  | .reference anchor => do
    let jumps := (← get) + 1
    if scope.jumpLimit < jumps then failure
    set jumps
    match (scope.anchored.reverse.find? (·.1 == anchor)).map (·.2) with
    | some node => return node
    | none => failure
  | node => return node

/-- What a node denotes, with at most `depth` collections around its innermost part. -/
def nodeValue (scope : Scope) : (depth : Nat) → YamlNode → StateT Nat Option YamlValue
  | depth, node => do
    match ← follow scope node, depth with
    | .reference _, _ => failure
    | .scalar properties text isPlain, _ =>
      underTag properties.tag fun named =>
        match scalarValue? properties.tag named text isPlain with
        | some value => return value
        | none => failure
    | .sequence properties items, depth + 1 =>
      underTag properties.tag fun _ => return .sequence (← items.mapM (nodeValue scope depth))
    | .mapping properties pairs, depth + 1 =>
      underTag properties.tag fun _ => do
        let pairs ← pairs.mapM fun (key, value) => do
          return (← nodeValue scope depth key, ← nodeValue scope depth value)
        if !YamlValue.distinctKeys pairs then failure
        return .mapping pairs
    | _, 0 => failure

end Yaml

def YamlNode.maxDepth : Nat := 128

/-- What the root of a document denotes; aliases may be followed a hundred times for each mark of
the document. -/
def YamlNode.value? (root : YamlNode) : Option YamlValue :=
  ((Yaml.nodeValue ⟨root.anchored, 100 * root.eventCount⟩ maxDepth root).run 0).map (·.1)

/-! ## Documents -/

namespace YamlValue

/-- The name of a member under a key that is a scalar. -/
def keyText? : YamlValue → Option String
  | string s => some s
  | bool b => some (if b then "true" else "false")
  | number n => some (String.ofList n.text)
  | _ => none

mutual

/-- The same value as a JSON document, unless a key is no scalar. -/
def toJson? : YamlValue → Option Json
  | null => some .null
  | bool b => some (.bool b)
  | number n => some (.number n)
  -- Numbers that JSON lacks are written as the absence of a value.
  | infinite _ => some .null
  | undefined => some .null
  | string s => some (.string s)
  | sequence items => (itemsToJson? items).map .array
  | mapping pairs => (pairsToJson? pairs).map fun members => .object (Json.membersOf members)
  | tagged tag value => (toJson? value).map fun value => .object [(tag, value)]

def itemsToJson? : List YamlValue → Option (List Json)
  | [] => some []
  | item :: rest => do return (← toJson? item) :: (← itemsToJson? rest)

def pairsToJson? : List (YamlValue × YamlValue) → Option (List (String × Json))
  | [] => some []
  | (key, value) :: rest => do
    return (← keyText? key, ← toJson? value) :: (← pairsToJson? rest)

end

end YamlValue

end Conform
