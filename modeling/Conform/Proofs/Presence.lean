import Conform.Proofs.Acceptance
import Conform.Proofs.Places

/-!
# Required fields of documents that are only checked

A schema that only checks returns a document as it was.  This file proves which required fields such
a document has: all those that could not be filled by a default, `validate_hasRequired`.

A field can coerce although its schema only checks.  Its default then counts as filling it, but no
default is ever written, so a required field can be missing from what passes:
`exists_validate_lacksRequired`.
-/

namespace Conform

/-- A schema that only checks returns a document that passes as it was. -/
theorem Schema.eq_of_validate {schema : Schema} (hcoerce : schema.options.coerce = false)
    {document result : Json} {draws drawn : Draws}
    (h : (schema.validate document).outcome draws = (.ok result, drawn)) : result = document := by
  rcases Run.outcome_bind_eq_ok h with ⟨entries, between, -, hlast⟩
  rw [hcoerce] at hlast
  cases hlast
  rfl

/-- A required field that passes where absent fields are not tolerated is given and not empty, or it
is absent and has a default to fill it. -/
theorem Field.given_or_filled {field : Field} (hrequired : field.facets.isRequired = true)
    {path : String} {value : Option Json} {draws drawn : Draws} {entries : Entries}
    (h : (field.check false path value).outcome draws = (.ok entries, drawn)) :
    (∃ given, value = some given ∧ field.isEmptyValue given = false) ∨
      value = none ∧ field.facets.default.isSome = true ∧ field.facets.coerce = true := by
  cases value with
  | some given =>
      rcases check_some_eq_ok.1 h with ⟨output, hpresent, -, -⟩
      have hnonempty := (checkPresent_eq_ok.1 hpresent).1 hrequired
      exact Or.inl ⟨given, rfl, hnonempty⟩
  | none => exact Or.inr ⟨rfl, default_of_check_none hrequired h⟩

/-- Where a document passes that is only checked, each required field of it is there and not empty,
in every object and in every item, unless the field coerces and has a default. -/
theorem validate_hasRequired {schema : Schema} (hcoerce : schema.options.coerce = false)
    (hstrict : schema.options.partialInput = false) {document result : Json} {draws drawn : Draws}
    (h : (schema.validate document).outcome draws = (.ok result, drawn)) :
    result = document ∧
      ∀ steps field reached,
        (Node.object schema.members).place? (some document) steps = some (.field field, reached) →
          field.facets.isRequired = true →
            (∃ given, result.at? steps = some given ∧ field.isEmptyValue given = false) ∨
              result.at? steps = none ∧ field.facets.default.isSome = true ∧
                field.facets.coerce = true := by
  obtain rfl : result = document := schema.eq_of_validate hcoerce h
  refine ⟨rfl, ?_⟩
  intro steps field reached hplace hrequired
  have hreached : reached = result.at? steps := Node.eq_at?_of_place? hplace
  have hvisit : ⟨steps, .field field reached⟩ ∈ rootVisits schema.members result :=
    mem_rootVisits_of_place? hplace
  rcases schema.check_of_validate h hvisit with ⟨before, written, after, hrun⟩
  rw [hstrict] at hrun
  rw [← hreached]
  exact Field.given_or_filled hrequired hrun

/-- A name that is required, and items each with a required mark. -/
def marksMembers : List (String × Node) :=
  let field := Node.field ⟨.builtin .string, { coerce := false, required := some ⟨true, none⟩ }⟩
  [("owner", .object [("name", field)]), ("items", .array (.object [("mark", field)]))]

/-- The definition that states `marksMembers` where documents are only checked. -/
def marksDefinition : Definition :=
  let field := Definition.field { type := .kind .string, constraints := [("required", .bool true)] }
  .object [("owner", .object [("name", field)]), ("items", .array [.object [("mark", field)]])]

/-- A member that is not declared, and an item that is empty. -/
def marksDocument : Json :=
  .object [("items", .array [.null, .object [("mark", .string "m"), ("x", .null)]]),
    ("owner", .object [("name", .string "n")])]

theorem validate_hasRequired_marks :
    (resolve .validateOnly .builtin marksDefinition).result = .ok marksMembers ∧
      (∀ draws, ((Schema.mk .validateOnly marksMembers).validate marksDocument).outcome draws =
        (.ok marksDocument, draws)) ∧
      ∃ field : Field, field.facets.isRequired = true ∧
        ((∃ given, marksDocument.at? [.key "items", .index 1, .key "mark"] = some given ∧
            field.isEmptyValue given = false) ∨
          marksDocument.at? [.key "items", .index 1, .key "mark"] = none ∧
            field.facets.default.isSome = true ∧ field.facets.coerce = true) := by
  have hpasses : ∀ draws, ((Schema.mk .validateOnly marksMembers).validate marksDocument).outcome
      draws = (.ok marksDocument, draws) := fun _ => rfl
  obtain ⟨-, hplaces⟩ := @validate_hasRequired ⟨.validateOnly, marksMembers⟩ rfl rfl marksDocument
    marksDocument _ _ (hpasses fun _ => 0)
  exact ⟨rfl, hpasses, _, rfl, hplaces [.key "items", .index 1, .key "mark"] _ _ rfl rfl⟩

/-- A required field that coerces and has a default. -/
def filledField : Field :=
  ⟨.builtin .string,
    { coerce := true, required := some ⟨true, none⟩, default := some (.fixed (.string "x")) }⟩

/-- The definition of an object with `filledField` alone. -/
def filledDefinition : Definition :=
  .object [("f", .field
    { type := .kind .string
      constraints := [("coerce", .bool true), ("required", .bool true),
        ("default", .string "x")] })]

/-- A schema that only checks lets a document pass from which a required field is missing: the
default that would fill it is not written. -/
theorem exists_validate_lacksRequired :
    ¬ ∀ (definition : Definition) (members : List (String × Node)) (document result : Json)
      (draws drawn : Draws),
      (resolve .validateOnly .builtin definition).result = .ok members →
      ((Schema.mk .validateOnly members).validate document).outcome draws = (.ok result, drawn) →
      ∀ steps field reached,
        (Node.object members).place? (some document) steps = some (.field field, reached) →
          field.facets.isRequired = true →
            ∃ given, result.at? steps = some given ∧ field.isEmptyValue given = false := by
  intro hclaim
  have hpasses : ((Schema.mk .validateOnly [("f", .field filledField)]).validate
      (.object [])).outcome (fun _ => 0) = (.ok (.object []), fun _ => 0) := rfl
  obtain ⟨given, hgiven, -⟩ := hclaim filledDefinition [("f", .field filledField)] _ _ _ _ rfl
    hpasses [.key "f"] filledField none rfl rfl
  cases hgiven

end Conform
