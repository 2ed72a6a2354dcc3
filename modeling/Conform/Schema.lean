import Conform.Resolution
import Conform.Validation

/-!
# Schemas

A schema is a resolved tree with the options under which it was built.  It is built once and then
checks any number of documents.  This file defines:

* `Schema`, with `fieldCount` and `find?`;
* `Schema.build`: from a definition;
* `Schema.validateFlat`: the log of a document, empty when documents are only checked;
* `Schema.validate`: the document in the form of the schema.
-/

namespace Conform

/-- The members of a resolved root, with the options of the schema. -/
structure Schema where
  options : Options
  members : List (String × Node)

namespace Schema

def root (schema : Schema) : Node := .object schema.members

def fieldCount (schema : Schema) : Nat := schema.root.fieldCount

def find? (schema : Schema) (path : String) : Option Node := schema.root.find? path

def build (definition : Definition) (options : Options) (registry : Registry) :
    Noted SchemaError Schema := do
  let members ← resolve options registry definition
  let schema : Schema := ⟨options, members⟩
  Noted.note (.compiling schema.fieldCount options)
  return schema

def ofJson (document : Json) (options : Options) (registry : Registry) :
    Noted SchemaError Schema := do
  build (← Definition.ofJson document) options registry

def withOptions (schema : Schema) (options : Options) : Schema := { schema with options }

/-- The log of a document that passes; nothing is written when documents are only checked. -/
def validateFlat (schema : Schema) (document : Json) : Run Entries := do
  let entries ← checkRoot schema.options.partialInput schema.members document
  return if schema.options.coerce then entries else []

/-- A document that passes, in the form of the schema; as it was when documents are only checked. -/
def validate (schema : Schema) (document : Json) : Run Json := do
  let entries ← schema.validateFlat document
  return if schema.options.coerce then rebuild entries else document

end Schema

end Conform
