import Conform.Proofs.Acceptance
import Conform.Proofs.Messages
import Conform.Proofs.Tolerance

/-!
# What violations point at

A violation names its place by a path, which was written on the way there.  Read back, the path
leads to a place of the tree, and to what is wrong there: a value that the node does not take, or
nothing where a value is required.  This file defines:

* `Node.task`: what a node asks for of a value that stands at it.

The main statement is `violation_pointsAt_cause`.
-/

namespace Conform

/-- What a node asks for of a value that stands at it, apart from what stands below. -/
def Node.task : Node → Json → Task
  | field f, value => .field f (some value)
  | object _, value => .item value
  | array _, value => .array value

/-! ## What is wrong in a place -/

/-- Where nothing stands, only a required field is missed. -/
theorem Field.violation?_none_eq_some {field : Field} {tolerant : Bool} {path : String}
    {violation : Violation} (h : field.violation? tolerant path none = some violation) :
    violation.fault = .required ∧ violation.value = .null := by
  simp only [violation?] at h
  split at h
  · cases h
  · split at h
    · cases h
      exact ⟨rfl, rfl⟩
    · cases h

/-- What a node finds wrong with a value, refused as it was given, shows the value. -/
theorem Node.value_of_violation? {node : Node} (hbuiltin : node.IsBuiltin) {tolerant : Bool}
    {path : String} {value : Json} {violation : Violation}
    (h : (node.task value).violation? tolerant path = some violation)
    (hgiven : violation.fault.IsOfGiven) : violation.value = value := by
  cases node with
  | field f =>
      obtain ⟨kind, hkind⟩ := hbuiltin
      simp only [Node.task, Task.violation?, Field.violation?] at h
      cases hpresent : f.checkPresent path value with
      | ok output =>
          rw [hpresent] at h
          cases h
      | error other =>
          rw [hpresent] at h
          cases h
          exact (Field.checkPresent_tells hkind path value _ hpresent).value hgiven
  | object members =>
      simp only [Node.task, Task.violation?] at h
      split at h
      · cases h
      · cases h
        rfl
  | array item =>
      simp only [Node.task, Task.violation?] at h
      split at h
      · cases h
      · cases h
        rfl

/-- What is asked of an item is asked at the end of an index. -/
theorem Node.index_of_mem_visits {node : Node} {base place : List Segment} {value : Option Json}
    {element : Json} (h : ⟨place, .item element⟩ ∈ node.visits base value) :
    ∃ before position, place = before ++ [.index position] := by
  induction node using Node.induct generalizing base value with
  | field f =>
      have hvisit := List.mem_singleton.1 h
      exact Task.noConfusion (Visit.mk.inj hvisit).2
  | object members ih =>
      rcases List.mem_append.1 h with hobject | hmembers
      · rcases mem_objectVisit hobject with ⟨kept, hkept⟩
        exact Task.noConfusion (Visit.mk.inj hkept).2
      · rcases mem_memberVisits.1 hmembers with ⟨member, hmember, hbelow⟩
        exact ih member hmember hbelow
  | array item ih =>
      cases value with
      | none => exact absurd h List.not_mem_nil
      | some value =>
          rcases List.mem_cons.1 h with harray | hitems
          · exact Task.noConfusion (Visit.mk.inj harray).2
          · rcases mem_itemVisits.1 hitems with ⟨position, other, -, hvisit⟩
            rcases mem_elementVisits_cases hvisit with ⟨hitem, -⟩ | ⟨hbelow, -⟩
            · exact ⟨_, _, (Visit.mk.inj hitem).1⟩
            · exact ih hbelow

/-! ## Whole documents -/

/-- What stops the bringing of a document to its form has stopped its checks. -/
theorem Schema.stops_validateFlat {schema : Schema} {document : Json} {draws drawn : Draws}
    {violation : Violation}
    (h : (schema.validate document).outcome draws = (.error violation, drawn)) :
    ∃ drawn, (schema.validateFlat document).outcome draws = (.error violation, drawn) := by
  have hstop : (schema.validate document).violation? draws = some violation :=
    Run.violation?_eq_some_iff.2 ⟨drawn, h⟩
  rw [Schema.violation?_validate] at hstop
  exact Run.violation?_eq_some_iff.1 hstop

/-- A violation points at its cause, in a document that is checked or brought to its form.  The
steps of its path lead to a place of the tree, and along them the document holds a value for which
the violation is found there, or nothing, where something is required.  A value that is refused as
it was given is the one that the violation shows. -/
theorem violation_pointsAt_cause {options : Options} {registry : Registry} {definition : Definition}
    {schema : Schema} {document : Json}
    (hschema : (resolve options registry definition).result = .ok schema.members)
    (hbuiltin : schema.root.Everywhere Node.IsBuiltin) (hdocument : document.WellFormed)
    {draws : Draws} {violation : Violation}
    (hstop : (∃ drawn, (schema.validateFlat document).outcome draws = (.error violation, drawn)) ∨
      ∃ drawn, (schema.validate document).outcome draws = (.error violation, drawn)) :
    ∃ target reached,
      schema.root.place? (some document) (tokenize violation.path) = some (target, reached) ∧
      document.at? (tokenize violation.path) = reached ∧
      ((reached = none ∧ violation.fault = .required ∧ violation.value = .null) ∨
        ∃ value, reached = some value ∧
          (target.task value).violation? schema.options.partialInput violation.path =
            some violation ∧
          (target.isObject = true →
            ∃ before position, tokenize violation.path = before ++ [.index position]) ∧
          ((violation.fault = .required ∨
              ∃ kind, kind ≠ .int32 ∧ violation.fault = .mistyped kind) →
            violation.value = value)) := by
  have hnames := resolve_hasPathNames hschema
  obtain ⟨_, hflat⟩ : ∃ drawn,
      (schema.validateFlat document).outcome draws = (.error violation, drawn) := by
    rcases hstop with hflat | ⟨_, hnested⟩
    · exact hflat
    · exact Schema.stops_validateFlat hnested
  obtain ⟨⟨steps, task⟩, hvisit, hwrong⟩ := exists_violation?_of_validateFlat hflat
  obtain ⟨target, reached, hplace, htask⟩ := exists_place?_of_mem_rootVisits hnames hvisit
  have htarget : target.IsBuiltin := by
    cases htask with
    | field f reached => exact of_mem_rootVisits hbuiltin hvisit
    | object _ _ _ | array _ _ | item _ _ => exact trivial
  have hpath : violation.path = Path.render steps := by
    refine Visit.path_of_violation? hwrong ?_
    rintro f value rfl
    obtain ⟨kind, hkind⟩ : Node.IsBuiltin (.field f) := of_mem_rootVisits hbuiltin hvisit
    exact Field.namesPath_of_builtin hkind
  have hsteps : tokenize violation.path = steps := by
    rw [hpath]
    exact tokenize_path_of_mem_rootVisits hnames hdocument hvisit
  have hreached : document.at? steps = reached := (Node.eq_at?_of_place? hplace).symm
  have hshown : ∀ value, (target.task value).violation? schema.options.partialInput
      (Path.render steps) = some violation →
        (violation.fault = .required ∨ ∃ kind, kind ≠ .int32 ∧ violation.fault = .mistyped kind) →
          violation.value = value := by
    intro value hfound hgiven
    exact Node.value_of_violation? htarget hfound (Fault.isOfGiven_iff.2 hgiven)
  rw [hsteps]
  refine ⟨target, reached, hplace, hreached, ?_⟩
  rw [hpath]
  -- What a node asks for of a value is the task of its visit; only a field asks for what is absent.
  cases htask with
  | object kept members reached => cases hwrong
  | field f reached =>
      cases reached with
      | none => exact Or.inl ⟨rfl, Field.violation?_none_eq_some hwrong⟩
      | some value =>
          have hfield : (Node.field f).isObject ≠ true := by simp [Node.isObject]
          exact Or.inr ⟨value, rfl, hwrong, fun hobject => absurd hobject hfield,
            hshown value hwrong⟩
  | array item value =>
      have harray : (Node.array item).isObject ≠ true := by simp [Node.isObject]
      exact Or.inr ⟨value, rfl, hwrong, fun hobject => absurd hobject harray, hshown value hwrong⟩
  | item members value =>
      have hindex := Node.index_of_mem_visits (mem_visits_of_mem_rootVisits hvisit)
      exact Or.inr ⟨value, rfl, hwrong, fun _ => hindex, hshown value hwrong⟩

/-- The second crew is no object. -/
def strayDocument : Json :=
  .object [("crews", .array [.object [("lead", .object [("name", .string "n")])], .bool true])]

/-- What is wrong with the second crew. -/
def strayViolation : Violation :=
  ⟨.mistyped .object, "Field \"crews[1]\" must be an object", "crews[1]", .bool true⟩

theorem violation_pointsAt_cause_stray :
    (resolve {} .builtin crewsDefinition).result = .ok crewsMembers ∧
      (Node.object crewsMembers).Everywhere Node.IsBuiltin ∧ strayDocument.WellFormed ∧
      (∀ draws, ((Schema.mk {} crewsMembers).validate strayDocument).outcome draws =
        (.error strayViolation, draws)) ∧
      strayDocument.at? (tokenize strayViolation.path) = some strayViolation.value := by
  have hresolve : (resolve {} .builtin crewsDefinition).result = .ok crewsMembers := rfl
  have hbuiltin : (Node.object crewsMembers).Everywhere Node.IsBuiltin := by
    simp [crewsMembers, Node.Everywhere, Node.EverywhereMembers, Node.IsBuiltin]
  have hform : strayDocument.WellFormed := by
    simp [strayDocument, Json.WellFormed, Json.Everywhere, Json.EverywhereItems,
      Json.EverywhereMembers, Json.IsTidy]
  have hstop : ∀ draws, ((Schema.mk {} crewsMembers).validate strayDocument).outcome draws =
      (.error strayViolation, draws) := fun _ => rfl
  refine ⟨hresolve, hbuiltin, hform, hstop, ?_⟩
  obtain ⟨target, reached, -, hreached, habsent | hpresent⟩ :=
    @violation_pointsAt_cause {} .builtin crewsDefinition ⟨{}, crewsMembers⟩ strayDocument hresolve
      hbuiltin hform (fun _ => 0) strayViolation (Or.inr ⟨_, hstop _⟩)
  · cases habsent.2.1
  · obtain ⟨value, hvalue, -, -, hshown⟩ := hpresent
    have hobject : Kind.object ≠ .int32 := by decide
    rw [hreached, hvalue, hshown (Or.inr ⟨.object, hobject, rfl⟩)]

end Conform
