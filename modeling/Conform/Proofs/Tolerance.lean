import Conform.Proofs.Conforming
import Conform.Proofs.Judging
import Conform.Proofs.Places

/-!
# Tolerated absences

A schema may tolerate that required fields are absent, and it tolerates nothing else.  This file
proves:

* `Visit.absent_of_violation?`: what is wrong only where absent fields are not tolerated is that a
  required field is absent;
* `runVisits_tolerant`: visits where nothing is wrong write the same in both cases;
* `validateFlat_tolerant`: a document that passes passes with the same log where absent fields are
  tolerated, and one that passes there alone lacks the required field for which it is refused.
-/

namespace Conform

/-! ## One place -/

/-- What is wrong only where absent fields are not tolerated is the absence of a required field. -/
theorem Visit.absent_of_violation? {visit : Visit} {violation : Violation}
    (hstrict : visit.violation? false = some violation)
    (htolerant : visit.violation? true = none) :
    ∃ f, visit.task = .field f none ∧
      violation = f.facets.requiredViolation visit.path .null := by
  rcases visit with ⟨steps, task⟩
  -- Every other task is judged without asking what is tolerated.
  have hsame : ∀ verdict, verdict = some violation → verdict = none → False := by
    intro verdict hsome hnone
    rw [hnone] at hsome
    cases hsome
  cases task with
  | field f value =>
      cases value with
      | some given => exact (hsame _ hstrict htolerant).elim
      | none =>
          refine ⟨f, rfl, ?_⟩
          simp only [violation?, Task.violation?, Field.violation?] at hstrict
          split at hstrict
          · cases hstrict
          · split at hstrict <;> cases hstrict
            rfl
  | object kept => exact (hsame _ hstrict htolerant).elim
  | array value => exact (hsame _ hstrict htolerant).elim
  | item value => exact (hsame _ hstrict htolerant).elim

/-- Where nothing is wrong, the same is written whether or not absent fields are tolerated. -/
theorem Visit.run_tolerant {visit : Visit} (h : visit.violation? false = none) :
    visit.run true = visit.run false := by
  rcases visit with ⟨steps, task⟩
  cases task with
  | field f value =>
      cases value with
      | some given => rfl
      | none =>
          simp only [violation?, Task.violation?, Field.violation?] at h
          simp only [run, Task.run, Field.check, Field.checkAbsent]
          -- Without a default that applies, the field is not required, for it would be missed.
          rcases hdefault : f.facets.default with _ | default
          · simp_all
          · cases hcoerce : f.facets.coerce with
            | true => rfl
            | false => simp_all
  | object kept => rfl
  | array value => rfl
  | item value => rfl

/-! ## Whole documents -/

theorem runVisits_tolerant {visits : List Visit}
    (h : ∀ visit ∈ visits, visit.violation? false = none) :
    runVisits true visits = runVisits false visits := by
  induction visits with
  | nil => rfl
  | cons visit rest ih =>
      have hfirst : visit.run true = visit.run false :=
        Visit.run_tolerant (h visit List.mem_cons_self)
      have hrest : runVisits true rest = runVisits false rest :=
        ih (fun other hother => h other (List.mem_cons_of_mem _ hother))
      rw [runVisits, runVisits, hfirst, hrest]

/-- A document passes where nothing is wrong in any of its visits. -/
theorem violation?_eq_none_of_validateFlat {schema : Schema} {document : Json} {draws drawn : Draws}
    {entries : Entries}
    (h : (schema.validateFlat document).outcome draws = (.ok entries, drawn)) :
    ∀ visit ∈ rootVisits schema.members document,
      visit.violation? schema.options.partialInput = none := by
  have hnone : (schema.validateFlat document).violation? draws = none :=
    Run.violation?_eq_none_iff.2 ⟨entries, drawn, h⟩
  rw [Schema.violation?_validateFlat, List.findSome?_eq_none_iff] at hnone
  exact hnone

/-- A document that is refused is refused for what is wrong in one of its visits. -/
theorem exists_violation?_of_validateFlat {schema : Schema} {document : Json}
    {draws drawn : Draws} {violation : Violation}
    (h : (schema.validateFlat document).outcome draws = (.error violation, drawn)) :
    ∃ visit ∈ rootVisits schema.members document,
      visit.violation? schema.options.partialInput = some violation := by
  have hsome : (schema.validateFlat document).violation? draws = some violation :=
    Run.violation?_eq_some_iff.2 ⟨drawn, h⟩
  rw [Schema.violation?_validateFlat] at hsome
  exact List.exists_of_findSome?_eq_some hsome

/-- The steps to a visited field are read back from the path of the visit, and lead to the value
that is checked there. -/
theorem at?_of_mem_rootVisits {members : List (String × Node)} {document : Json}
    (hnames : (Node.object members).Everywhere Node.HasPathNames) (hdocument : document.WellFormed)
    {visit : Visit} (hvisit : visit ∈ rootVisits members document) {f : Field}
    {reached : Option Json} (htask : visit.task = .field f reached) :
    document.at? (tokenize visit.path) = reached := by
  have hsteps := tokenize_path_of_mem_rootVisits hnames hdocument hvisit
  rcases visit with ⟨steps, task⟩
  obtain rfl : task = .field f reached := htask
  have hplace := place?_of_mem_rootVisits hnames hvisit
  calc
    document.at? (tokenize (Path.render steps)) = document.at? steps := congrArg _ hsteps
    _ = reached := (Node.eq_at?_of_place? hplace).symm

/-- A document that passes leaves the same log where absent fields are tolerated.  One that passes
there alone is refused otherwise for a required field, at a path that leads to nothing in it. -/
theorem validateFlat_tolerant {options : Options} {registry : Registry} {definition : Definition}
    {members : List (String × Node)}
    (hschema : (resolve options registry definition).result = .ok members) (coerce : Bool)
    {document : Json} (hdocument : document.WellFormed) (draws : Draws) :
    (∀ entries drawn,
        ((Schema.mk ⟨coerce, false⟩ members).validateFlat document).outcome draws =
          (.ok entries, drawn) →
        ((Schema.mk ⟨coerce, true⟩ members).validateFlat document).outcome draws =
          (.ok entries, drawn)) ∧
      ∀ violation drawn entries after,
        ((Schema.mk ⟨coerce, false⟩ members).validateFlat document).outcome draws =
          (.error violation, drawn) →
        ((Schema.mk ⟨coerce, true⟩ members).validateFlat document).outcome draws =
          (.ok entries, after) →
        violation.fault = .required ∧ violation.value = .null ∧
          document.at? (tokenize violation.path) = none := by
  constructor
  · intro entries drawn hstrict
    have hclear : ∀ visit ∈ rootVisits members document, visit.violation? false = none :=
      violation?_eq_none_of_validateFlat hstrict
    have hcheck : checkRoot true members document = checkRoot false members document := by
      rw [checkRoot_eq_runVisits, checkRoot_eq_runVisits, runVisits_tolerant hclear]
    rw [← hstrict, Schema.validateFlat, Schema.validateFlat, hcheck]
  · intro violation drawn entries after hstrict htolerant
    obtain ⟨visit, hvisit, hwrong⟩ := exists_violation?_of_validateFlat hstrict
    have hright : visit.violation? true = none :=
      violation?_eq_none_of_validateFlat htolerant visit hvisit
    obtain ⟨f, htask, rfl⟩ := Visit.absent_of_violation? hwrong hright
    exact ⟨rfl, rfl, at?_of_mem_rootVisits (resolve_hasPathNames hschema) hdocument hvisit htask⟩

/-- A name that must be given, in an object of its own, in every item. -/
def crewsMembers : List (String × Node) :=
  [("crews", .array (.object [("lead", .object [("name",
    .field ⟨.builtin .string, { coerce := true, required := some ⟨true, none⟩ }⟩)])]))]

/-- The definition that states `crewsMembers`. -/
def crewsDefinition : Definition :=
  .object [("crews", .array [.object [("lead", .object [("name",
    .field { type := .kind .string, constraints := [("required", .bool true)] })])]])]

/-- In the second item the name is looked for in a value that is no object. -/
def crewsDocument : Json :=
  .object [("crews", .array [.object [("lead", .object [("name", .string "n")])],
    .object [("lead", .string "n")]])]

/-- What is wrong with `crewsDocument` where absent fields are not tolerated. -/
def crewsViolation : Violation :=
  ⟨.required, "Field \"crews[1].lead.name\" is required", "crews[1].lead.name", .null⟩

theorem validateFlat_tolerant_crews :
    (resolve {} .builtin crewsDefinition).result = .ok crewsMembers ∧ crewsDocument.WellFormed ∧
      (∀ draws, ((Schema.mk ⟨true, false⟩ crewsMembers).validateFlat crewsDocument).outcome draws =
        (.error crewsViolation, draws)) ∧
      crewsViolation.fault = .required ∧ crewsViolation.value = .null ∧
      crewsDocument.at? (tokenize crewsViolation.path) = none := by
  have hresolve : (resolve {} .builtin crewsDefinition).result = .ok crewsMembers := rfl
  have hform : crewsDocument.WellFormed := by
    simp [crewsDocument, Json.WellFormed, Json.Everywhere, Json.EverywhereItems,
      Json.EverywhereMembers, Json.IsTidy]
  have hrefused : ∀ draws, ((Schema.mk ⟨true, false⟩ crewsMembers).validateFlat
      crewsDocument).outcome draws = (.error crewsViolation, draws) := fun _ => rfl
  obtain ⟨-, habsent⟩ := validateFlat_tolerant hresolve true hform fun _ => 0
  exact ⟨hresolve, hform, hrefused, habsent _ _ _ _ (hrefused fun _ => 0) rfl⟩

end Conform
