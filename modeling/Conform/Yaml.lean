import Conform.Yaml.Value

/-!
# YAML texts

This file defines:

* `YamlError`: why a text states no document;
* `Json.ofYaml`: the document that a YAML text states.
-/

namespace Conform

/-- Why a text states no document: it is no YAML, or it has keys that no JSON document has. -/
inductive YamlError where
  | notYaml
  | notJson
  deriving DecidableEq, Repr

def Json.ofYaml (text : String) : Except YamlError Json :=
  match ((Yaml.scan? text.toList).bind YamlNode.ofTokens?).bind YamlNode.value? with
  | none => .error .notYaml
  | some value =>
    match value.toJson? with
    | some document => .ok document
    | none => .error .notJson

end Conform
