import Conform.Json.Reader
import Conform.Schema
import Conform.Yaml

/-!
# Loading schemas

A schema file holds a definition as JSON or as YAML, which its name tells.  This file defines:

* `Format`, with `Format.ofFileName?`;
* `LoadError`, with `LoadError.message`;
* `parseDocument`, `parseDefinition`: what a text states;
* `Schema.load`: the schema that a file states, given its bytes.
-/

namespace Conform

/-! ## Formats -/

/-- The formats of schema files. -/
inductive Format where
  | json
  | yaml
  deriving DecidableEq, Repr

def slashPieces : List Char → List (List Char)
  | [] => [[]]
  | c :: rest =>
    match slashPieces rest with
    | piece :: more => if c = '/' then [] :: piece :: more else (c :: piece) :: more
    | [] => [[c]]

/-- The last piece of a file name that is not empty or a single point. -/
def lastPiece? (path : List Char) : Option (List Char) :=
  ((slashPieces path).filter fun piece => !piece.isEmpty && piece != ['.']).getLast?

/-- What stands after the last point of a piece. -/
def extension? (piece : List Char) : Option (List Char) :=
  if piece = ['.', '.'] then none
  else
    let reversed := piece.reverse
    match reversed.dropWhile (· != '.') with
    -- A point at the start of the piece does not count.
    | _ :: _ :: _ => some (reversed.takeWhile (· != '.')).reverse
    | _ => none

/-- The format that the extension of a file name stands for, in any case. -/
def Format.ofFileName? (file : String) : Option Format :=
  match (lastPiece? file.toList).bind extension? with
  | some text =>
    let text := toLower (String.ofList text)
    if text = "json" then some .json
    else if text = "yaml" ∨ text = "yml" then some .yaml
    else none
  | none => none

/-! ## Errors -/

/-- Why no schema could be loaded. -/
inductive LoadError where
  | schema (error : SchemaError)
  | json
  | yaml
  | unreadable (file : String)
  | unsupportedFormat (file : String)

def LoadError.message : LoadError → String
  | schema error => error.message
  | json => "Failed to parse JSON schema definition: " ++ outsideReason
  | yaml => "Failed to parse YAML schema definition: " ++ outsideReason
  | unreadable file => "Failed to read schema file '" ++ file ++ "': " ++ outsideReason
  | unsupportedFormat file =>
    "Unsupported file format for '" ++ file ++ "'. Expected .yaml, .yml, or .json"

/-! ## Texts -/

def parseDocument (format : Format) (text : String) : Except LoadError Json :=
  match format with
  | .json =>
    match Json.read? text with
    | some document => .ok document
    | none => .error .json
  | .yaml =>
    match Json.ofYaml text with
    | .ok document => .ok document
    | .error .notYaml => .error .yaml
    | .error .notJson => .error .json

def parseDefinition (format : Format) (text : String) : Except LoadError Definition := do
  let document ← parseDocument format text
  (Definition.ofJson document).mapError .schema

/-! ## Files -/

/-- The text of a file, if its bytes can be read and are valid. -/
def fileText (file : String) (bytes : Option ByteArray) : Except LoadError String :=
  match bytes.bind String.fromUTF8? with
  | some text => .ok text
  | none => .error (.unreadable file)

/-- The schema that a file states, given its bytes unless they could not be read. -/
def Schema.load (file : String) (bytes : Option ByteArray) (options : Options)
    (registry : Registry) : Noted LoadError Schema := do
  let some format := Format.ofFileName? file
    | Noted.ofExcept (.error (.unsupportedFormat file))
  let text ← Noted.ofExcept (fileText file bytes)
  let definition ← Noted.ofExcept (parseDefinition format text)
  Noted.note (.loaded file)
  (Schema.build definition options registry).mapError .schema

end Conform
