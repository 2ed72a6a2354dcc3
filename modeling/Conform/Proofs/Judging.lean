import Conform.Proofs.Visits
import Conform.Proofs.Wording

/-!
# What is wrong in each place

A run stops at the first violation.  Each place can be judged by itself, without the places before
it and without what has been drawn so far, and the run tells no more and no less than the first of
these judgements.  This file defines:

* `Field.violation?`, `Visit.violation?`: what is wrong with a field, and in one place;
* `Run.violation?`: the violation at which a run stops;
* `NamesPath`: a check all of whose violations name one path.

The main statement is `validate_iff_violation?`: a document passes when nothing is wrong in any
place, and is otherwise refused for what is wrong in the first of those where something is.
-/

namespace Conform

/-! ## Judging one place -/

/-- What is wrong with the value of a field, or with its absence. -/
def Field.violation? (tolerant : Bool) (field : Field) (path : String) :
    Option Json → Option Violation
  | none =>
    if field.facets.default.isSome && field.facets.coerce then none
    else if field.facets.isRequired && !tolerant then
      some (field.facets.requiredViolation path .null)
    else none
  | some value =>
    match field.checkPresent path value with
    | .ok _ => none
    | .error violation => some violation

def Task.violation? (tolerant : Bool) (path : String) : Task → Option Violation
  | field f value => f.violation? tolerant path value
  | object _ => none
  | array value =>
    if value.isEmpty || value.items?.isSome then none else some (shapeViolation .array path value)
  | item value =>
    if value.isObject || value.isEmpty then none else some (shapeViolation .object path value)

/-- What is wrong in one place. -/
def Visit.violation? (tolerant : Bool) (visit : Visit) : Option Violation :=
  visit.task.violation? tolerant visit.path

/-! ## Where a run stops -/

namespace Run

variable {α β : Type}

/-- The violation at which a run stops, if it does. -/
def violation? (x : Run α) (draws : Draws) : Option Violation :=
  match (x.outcome draws).1 with
  | .ok _ => none
  | .error violation => some violation

theorem violation?_eq_none_iff {x : Run α} {draws : Draws} :
    x.violation? draws = none ↔ ∃ a drawn, x.outcome draws = (.ok a, drawn) := by
  unfold violation?
  rcases x.outcome draws with ⟨result, drawn⟩
  cases result with
  | ok a => simp
  | error violation => simp

theorem violation?_eq_some_iff {x : Run α} {draws : Draws} {violation : Violation} :
    x.violation? draws = some violation ↔
      ∃ drawn, x.outcome draws = (.error violation, drawn) := by
  unfold violation?
  rcases x.outcome draws with ⟨result, drawn⟩
  cases result with
  | ok a => simp
  | error other => simp

/-- A sequence stops where its first part stops, or else where the rest does. -/
theorem violation?_bind {x : Run α} {f : α → Run β} {verdict : Option Violation}
    (hrest : ∀ a draws, (f a).violation? draws = verdict) (draws : Draws) :
    (x >>= f).violation? draws = (x.violation? draws).or verdict := by
  rcases hx : x.outcome draws with ⟨result, drawn⟩
  cases result with
  | ok a =>
      have hfirst : x.violation? draws = none := by simp [violation?, hx]
      have hbind : (x >>= f).violation? draws = (f a).violation? drawn := by
        simp [violation?, outcome_bind, hx]
      calc
        (x >>= f).violation? draws = (f a).violation? drawn := hbind
        _ = verdict := hrest a drawn
        _ = (x.violation? draws).or verdict := by rw [hfirst, Option.none_or]
  | error violation =>
      have hfirst : x.violation? draws = some violation := by simp [violation?, hx]
      have hbind : (x >>= f).violation? draws = some violation := by
        simp [violation?, outcome_bind, hx]
      rw [hbind, hfirst, Option.some_or]

end Run

/-! ## One place after the other -/

theorem Field.violation?_check (tolerant : Bool) (field : Field) (path : String)
    (value : Option Json) (draws : Draws) :
    (field.check tolerant path value).violation? draws =
      field.violation? tolerant path value := by
  cases value with
  | some given =>
      simp only [check, violation?]
      cases field.checkPresent path given with
      | ok output => rfl
      | error violation => rfl
  | none =>
      simp only [check, checkAbsent, violation?]
      -- The default applies only where there is one and the field coerces.
      rcases field.facets.default with _ | default
      · cases field.facets.isRequired <;> cases tolerant <;> rfl
      · cases field.facets.coerce with
        | true => rfl
        | false => cases field.facets.isRequired <;> cases tolerant <;> rfl

/-- A visit stops for what is wrong in its place, whatever has been drawn before. -/
theorem Visit.violation?_run (tolerant : Bool) (visit : Visit) (draws : Draws) :
    (visit.run tolerant).violation? draws = visit.violation? tolerant := by
  rcases visit with ⟨steps, task⟩
  cases task with
  | field f value => exact f.violation?_check tolerant _ value draws
  | object kept => rfl
  | array value =>
      simp only [Visit.run, Visit.violation?, Task.run, Task.violation?]
      cases value.isEmpty with
      | true => rfl
      | false => cases value <;> rfl
  | item value =>
      simp only [Visit.run, Visit.violation?, Task.run, Task.violation?]
      cases value.isObject with
      | true => rfl
      | false => cases value.isEmpty <;> rfl

/-- Visits stop for what is wrong in the first place where something is. -/
theorem violation?_runVisits (tolerant : Bool) (visits : List Visit) (draws : Draws) :
    (runVisits tolerant visits).violation? draws =
      visits.findSome? (·.violation? tolerant) := by
  induction visits generalizing draws with
  | nil => rfl
  | cons visit rest ih =>
      have hrest : ∀ (first : Entries) (draws : Draws),
          (do return first ++ (← runVisits tolerant rest) : Run Entries).violation? draws =
            rest.findSome? (·.violation? tolerant) := by
        intro first draws
        have hlast := Run.violation?_bind (x := runVisits tolerant rest)
          (f := fun others => pure (first ++ others)) (fun _ _ => rfl) draws
        rw [Option.or_none, ih] at hlast
        exact hlast
      calc
        (runVisits tolerant (visit :: rest)).violation? draws
            = ((visit.run tolerant).violation? draws).or
                (rest.findSome? (·.violation? tolerant)) := Run.violation?_bind hrest draws
        _ = (visit :: rest).findSome? (·.violation? tolerant) := by
              rw [Visit.violation?_run, List.findSome?_cons]
              cases visit.violation? tolerant <;> rfl

/-! ## Paths of violations -/

/-- Every violation of a check names one path. -/
def NamesPath {α : Type} (path : String) (x : Except Violation α) : Prop :=
  ∀ violation, x = .error violation → violation.path = path

namespace NamesPath

variable {α β : Type} {path : String}

theorem ok (a : α) : NamesPath path (.ok a) := Finds.ok a

theorem error {violation : Violation} (h : violation.path = path) :
    NamesPath path (.error violation : Except Violation α) := Finds.error h

theorem bind {x : Except Violation α} {f : α → Except Violation β} (hx : NamesPath path x)
    (hf : ∀ a, NamesPath path (f a)) : NamesPath path (x >>= f) := Finds.bind hx hf

/-- A check that ends like itself, fault for fault, names its own path. -/
theorem of_sameEnd {x : Except Violation α} (h : SameEnd path path x x) : NamesPath path x := by
  rintro violation rfl
  cases h with
  | error hfault => exact hfault.path

end NamesPath

/-- The rule of a field names the path at which it is applied. -/
def Field.NamesPath (field : Field) : Prop :=
  ∀ value path, Conform.NamesPath path (field.applyRule value path)

/-- Registered rules may name any path; the built-in ones name their own. -/
theorem Field.namesPath_of_builtin {field : Field} {kind : Kind}
    (hkind : field.type = .builtin kind) : field.NamesPath := by
  intro value path
  rw [applyRule_of_builtin hkind]
  exact .of_sameEnd (Kind.rule_sameEnd (.refl _) kind _ _ value)

theorem Field.checkPresent_namesPath {field : Field} (hrule : field.NamesPath) (path : String)
    (value : Json) : Conform.NamesPath path (field.checkPresent path value) := by
  unfold checkPresent
  split
  · exact NamesPath.error rfl
  · refine NamesPath.bind (hrule value path) (fun output => ?_)
    split
    · have hvalue : Conform.NamesPath path (field.facets.checkValue output path) :=
        .of_sameEnd ((Facets.AsksLike.refl field.facets).checkValue output)
      exact NamesPath.bind hvalue (fun _ => NamesPath.ok _)
    · exact NamesPath.ok _

/-- What is wrong in a place names the path of the place, where the rule of a field does. -/
theorem Visit.path_of_violation? {tolerant : Bool} {visit : Visit} {violation : Violation}
    (h : visit.violation? tolerant = some violation)
    (hrule : ∀ f value, visit.task = .field f value → f.NamesPath) :
    violation.path = visit.path := by
  rcases visit with ⟨steps, task⟩
  cases task with
  | field f value =>
      cases value with
      | none =>
          simp only [Visit.violation?, Task.violation?, Field.violation?] at h
          split at h
          · cases h
          · split at h <;> cases h
            rfl
      | some given =>
          simp only [Visit.violation?, Task.violation?, Field.violation?] at h
          split at h
          · cases h
          · next other hpresent =>
              cases h
              exact Field.checkPresent_namesPath (hrule f _ rfl) _ given violation hpresent
  | object kept => cases h
  | array value =>
      simp only [Visit.violation?, Task.violation?] at h
      split at h <;> cases h
      rfl
  | item value =>
      simp only [Visit.violation?, Task.violation?] at h
      split at h <;> cases h
      rfl

/-! ## Whole documents -/

theorem Schema.violation?_validateFlat (schema : Schema) (document : Json) (draws : Draws) :
    (schema.validateFlat document).violation? draws =
      (rootVisits schema.members document).findSome?
        (·.violation? schema.options.partialInput) := by
  have hlast := Run.violation?_bind
    (x := checkRoot schema.options.partialInput schema.members document)
    (f := fun entries => pure (if schema.options.coerce then entries else []))
    (fun _ _ => rfl) draws
  rw [Option.or_none, checkRoot_eq_runVisits, violation?_runVisits] at hlast
  rw [← hlast, ← checkRoot_eq_runVisits]
  rfl

/-- Bringing a document to its form stops for nothing that its checks have not stopped for. -/
theorem Schema.violation?_validate (schema : Schema) (document : Json) (draws : Draws) :
    (schema.validate document).violation? draws =
      (schema.validateFlat document).violation? draws := by
  have hlast := Run.violation?_bind (x := schema.validateFlat document)
    (f := fun entries => pure (if schema.options.coerce then rebuild entries else document))
    (fun _ _ => rfl) draws
  rw [Option.or_none] at hlast
  exact hlast

/-- A document passes exactly when nothing is wrong in any of its places by itself.  Otherwise it is
refused for just what is wrong in the first place, in order, where something is; that violation
names the path of its place, where the rule of a field names the path at which it is applied. -/
theorem validate_iff_violation? (schema : Schema) (document : Json) (draws : Draws) :
    ((∃ result drawn, (schema.validate document).outcome draws = (.ok result, drawn)) ↔
        ∀ visit ∈ rootVisits schema.members document,
          visit.violation? schema.options.partialInput = none) ∧
      (∀ violation,
        (∃ drawn, (schema.validate document).outcome draws = (.error violation, drawn)) ↔
          ∃ before visit after, rootVisits schema.members document = before ++ visit :: after ∧
            (∀ earlier ∈ before, earlier.violation? schema.options.partialInput = none) ∧
            visit.violation? schema.options.partialInput = some violation) ∧
      (schema.validateFlat document).violation? draws =
        (schema.validate document).violation? draws ∧
      ∀ (visit : Visit) (violation : Violation),
        visit.violation? schema.options.partialInput = some violation →
          (∀ f value, visit.task = .field f value → f.NamesPath) →
            violation.path = Path.render visit.steps := by
  have hverdict : (schema.validate document).violation? draws =
      (rootVisits schema.members document).findSome?
        (·.violation? schema.options.partialInput) :=
    (schema.violation?_validate document draws).trans (schema.violation?_validateFlat document draws)
  refine ⟨?_, ?_, (schema.violation?_validate document draws).symm, ?_⟩
  · calc
      (∃ result drawn, (schema.validate document).outcome draws = (.ok result, drawn))
          ↔ (schema.validate document).violation? draws = none :=
            Run.violation?_eq_none_iff.symm
      _ ↔ ∀ visit ∈ rootVisits schema.members document,
            visit.violation? schema.options.partialInput = none := by
            rw [hverdict, List.findSome?_eq_none_iff]
  · intro violation
    have hfirst : (∃ drawn, (schema.validate document).outcome draws =
        (.error violation, drawn)) ↔
          (rootVisits schema.members document).findSome?
            (·.violation? schema.options.partialInput) = some violation := by
      rw [← hverdict, Run.violation?_eq_some_iff]
    rw [hfirst, List.findSome?_eq_some_iff]
    constructor
    · rintro ⟨before, visit, after, hvisits, hvisit, hbefore⟩
      exact ⟨before, visit, after, hvisits, hbefore, hvisit⟩
    · rintro ⟨before, visit, after, hvisits, hbefore, hvisit⟩
      exact ⟨before, visit, after, hvisits, hvisit, hbefore⟩
  · intro visit violation hvisit hrule
    exact visit.path_of_violation? hvisit hrule

/-- A name that must be given. -/
def ownerField : Field :=
  ⟨.builtin .string, { coerce := true, required := some ⟨true, none⟩ }⟩

/-- Tags, and after them their owner. -/
def tagsMembers : List (String × Node) :=
  [("tags", .array (.field (.bare (.builtin .string)))), ("owner", .field ownerField)]

/-- The second tag is none, and the owner is missing. -/
def tagsDocument : Json :=
  .object [("tags", .array [.string "ab", .array []]), ("owner", .null)]

/-- What is wrong with the second tag. -/
def tagsViolation : Violation :=
  ⟨.mistyped .string, "Field \"tags[1]\" must be a string", "tags[1]", .array []⟩

theorem validate_tagsDocument : ∀ draws : Draws,
    (Visit.mk [.key "owner"] (.field ownerField (some .null))).violation? false =
        some ⟨.required, "Field \"owner\" is required", "owner", .null⟩ ∧
      (∃ drawn, ((Schema.mk {} tagsMembers).validate tagsDocument).outcome draws =
        (.error tagsViolation, drawn)) ∧
      tagsViolation.path = Path.render [.key "tags", .index 1] := by
  intro draws
  let tags : Visit := ⟨[.key "tags"], .array (.array [.string "ab", .array []])⟩
  let first : Visit :=
    ⟨[.key "tags", .index 0], .field (.bare (.builtin .string)) (some (.string "ab"))⟩
  let second : Visit :=
    ⟨[.key "tags", .index 1], .field (.bare (.builtin .string)) (some (.array []))⟩
  let owner : Visit := ⟨[.key "owner"], .field ownerField (some .null)⟩
  have hvisits : rootVisits tagsMembers tagsDocument = [tags, first] ++ second :: [owner] := rfl
  have hbefore : ∀ earlier ∈ [tags, first], earlier.violation? false = none := by
    simp only [List.forall_mem_cons, List.not_mem_nil, false_implies, implies_true, and_true]
    exact ⟨rfl, rfl⟩
  have hsecond : second.violation? false = some tagsViolation := rfl
  obtain ⟨-, hrefused, -, hpath⟩ := validate_iff_violation? ⟨{}, tagsMembers⟩ tagsDocument draws
  refine ⟨rfl, (hrefused _).2 ⟨_, second, _, hvisits, hbefore, hsecond⟩, hpath _ _ hsecond ?_⟩
  rintro f value ⟨⟩
  exact Field.namesPath_of_builtin rfl

end Conform
