import Conform.Proofs.Rules
import Conform.Proofs.Visits

/-!
# What acceptance means

A document that passes has passed at every place that is visited in it.  This file defines:

* `Node.IsBuiltin`: a field of a built-in kind, or no field at all;

and proves what the success of a whole document says of each field that is visited in it.
-/

namespace Conform

/-! ## Fields -/

/-- A given value passes when it is accepted; what is accepted is written, and nothing is drawn. -/
theorem Field.check_some_eq_ok {tolerant : Bool} {field : Field} {path : String} {value : Json}
    {draws drawn : Draws} {entries : Entries} :
    (field.check tolerant path (some value)).outcome draws = (.ok entries, drawn) ↔
      ∃ output, field.checkPresent path value = .ok output ∧ entries = [(path, output)] ∧
        drawn = draws := by
  simp only [Field.check]
  constructor
  · intro h
    rcases Run.outcome_bind_eq_ok h with ⟨output, between, hpresent, hwritten⟩
    rw [Run.outcome_lift] at hpresent
    cases hwritten
    exact ⟨output, (Prod.mk.inj hpresent).1, rfl, (Prod.mk.inj hpresent).2.symm⟩
  · rintro ⟨output, hpresent, rfl, rfl⟩
    rw [hpresent]
    rfl

/-- A required field without a value passes by its default alone, unless absent fields are
tolerated. -/
theorem Field.default_of_check_none {field : Field} (hrequired : field.facets.isRequired = true)
    {path : String} {draws drawn : Draws} {entries : Entries}
    (h : (field.check false path none).outcome draws = (.ok entries, drawn)) :
    field.facets.default.isSome = true ∧ field.facets.coerce = true := by
  simp only [Field.check, checkAbsent, hrequired] at h
  -- Without a default, or without coercion, the run stops here.
  cases hdefault : field.facets.default with
  | none =>
      simp only [hdefault] at h
      cases h
  | some default =>
      cases hcoerce : field.facets.coerce with
      | false =>
          simp only [hdefault, hcoerce] at h
          cases h
      | true => exact ⟨rfl, rfl⟩

/-! ## Whole documents -/

theorem Schema.runVisits_of_validate {schema : Schema} {document result : Json}
    {draws drawn : Draws}
    (h : (schema.validate document).outcome draws = (.ok result, drawn)) :
    ∃ entries after, (runVisits schema.options.partialInput
      (rootVisits schema.members document)).outcome draws = (.ok entries, after) := by
  -- Bringing the document to its form comes after all checks, and only reads the log.
  rcases Run.outcome_bind_eq_ok h with ⟨written, between, hflat, -⟩
  rcases Run.outcome_bind_eq_ok hflat with ⟨entries, after, hcheck, -⟩
  rw [checkRoot_eq_runVisits] at hcheck
  exact ⟨entries, after, hcheck⟩

/-- Where a document passes, every field that is visited in it passes. -/
theorem Schema.check_of_validate {schema : Schema} {document result : Json} {draws drawn : Draws}
    (h : (schema.validate document).outcome draws = (.ok result, drawn)) {steps : List Segment}
    {field : Field} {value : Option Json}
    (hvisit : ⟨steps, .field field value⟩ ∈ rootVisits schema.members document) :
    ∃ before written after,
      (field.check schema.options.partialInput (Path.render steps) value).outcome before =
        (.ok written, after) := by
  rcases schema.runVisits_of_validate h with ⟨entries, after, hruns⟩
  rcases runVisits_eq_ok hruns hvisit with ⟨before, written, after, hrun, -⟩
  exact ⟨before, written, after, hrun⟩

/-- A field of a built-in kind, or no field at all. -/
def Node.IsBuiltin : Node → Prop
  | field f => ∃ kind, f.type = .builtin kind
  | object _ | array _ => True

/-- In a document that passes, what the rule of a field writes for a value meets everything that the
field declares unless it is empty, and a required field has a value or is filled by its default. -/
theorem validate_metBy {options : Options} {registry : Registry} {definition : Definition}
    {schema : Schema} (hschema : (resolve options registry definition).result = .ok schema.members)
    (hbuiltin : (Node.object schema.members).Everywhere Node.IsBuiltin) {document result : Json}
    {draws drawn : Draws}
    (h : (schema.validate document).outcome draws = (.ok result, drawn))
    {steps : List Segment} {field : Field} {value : Option Json}
    (hvisit : ⟨steps, .field field value⟩ ∈ rootVisits schema.members document) :
    ∃ kind, field.type = .builtin kind ∧
      (∀ given, value = some given →
        ∃ output, field.applyRule given (Path.render steps) = .ok output ∧
          (field.isEmptyValue output = false → field.facets.MetBy kind output)) ∧
      (value = none → field.facets.isRequired = true → schema.options.partialInput = false →
        field.facets.default.isSome = true ∧ field.facets.coerce = true) := by
  obtain ⟨kind, hkind⟩ : Node.IsBuiltin (.field field) := of_mem_rootVisits hbuiltin hvisit
  have hresolved : field.IsResolved options registry :=
    of_mem_rootVisits (resolve_isResolved hschema) hvisit
  rcases schema.check_of_validate h hvisit with ⟨before, written, after, hrun⟩
  refine ⟨kind, hkind, ?_, ?_⟩
  · rintro given rfl
    rcases Field.check_some_eq_ok.1 hrun with ⟨output, hpresent, -, -⟩
    rcases Field.checkPresent_eq_ok.1 hpresent with ⟨-, hrule, -⟩
    exact ⟨output, hrule, Field.metBy_of_checkPresent hkind hresolved.hasBounds hpresent⟩
  · rintro rfl hrequired hstrict
    rw [hstrict] at hrun
    exact Field.default_of_check_none hrequired hrun

/-- Labels that are trimmed, each of them required and one of a list. -/
def labelField : Field :=
  ⟨.builtin .string,
    { coerce := true, required := some ⟨true, none⟩, allowed := some ⟨[.string "ab"], none⟩,
      trim := true }⟩

/-- An array of labels. -/
def labelsMembers : List (String × Node) := [("labels", .array (.field labelField))]

/-- The definition that states `labelsMembers`. -/
def labelsDefinition : Definition :=
  .object [("labels", .array [.field { type := .kind .string, constraints :=
    [("required", .bool true), ("trim", .bool true), ("enum", .array [.string "ab"])] }])]

/-- One label with blanks around it. -/
def labelsDocument : Json := .object [("labels", .array [.string " ab "])]

theorem validate_metBy_labels :
    (resolve {} .builtin labelsDefinition).result = .ok labelsMembers ∧
      (∀ draws, ((Schema.mk {} labelsMembers).validate labelsDocument).outcome draws =
        (.ok (.object [("labels", .array [.string "ab"])]), draws)) ∧
      ∃ kind, labelField.type = .builtin kind ∧
        ∃ output, labelField.applyRule (.string " ab ") "labels[0]" = .ok output ∧
          (labelField.isEmptyValue output = false → labelField.facets.MetBy kind output) := by
  have hresolve : (resolve {} .builtin labelsDefinition).result = .ok labelsMembers := rfl
  have hbuiltin : (Node.object labelsMembers).Everywhere Node.IsBuiltin :=
    ⟨trivial, ⟨trivial, .string, rfl⟩, trivial⟩
  have hpasses : ∀ draws, ((Schema.mk {} labelsMembers).validate labelsDocument).outcome draws =
      (.ok (.object [("labels", .array [.string "ab"])]), draws) := fun _ => rfl
  have hvisit : ⟨[.key "labels", .index 0], .field labelField (some (.string " ab "))⟩ ∈
      rootVisits labelsMembers labelsDocument := List.mem_append_right _ (by
    simp [labelsMembers, labelsDocument, memberVisits, Node.visits, itemVisits, elementVisits,
      Json.members?, Json.items?, Json.lookup, Node.isObject])
  obtain ⟨kind, hkind, hgiven, -⟩ :=
    @validate_metBy {} .builtin labelsDefinition ⟨{}, labelsMembers⟩ hresolve hbuiltin _ _ _ _
      (hpasses fun _ => 0) _ _ _ hvisit
  exact ⟨hresolve, hpasses, kind, hkind, hgiven _ rfl⟩

end Conform
