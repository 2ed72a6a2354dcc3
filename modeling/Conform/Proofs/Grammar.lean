import Conform.Proofs.Addresses
import Mathlib.Data.List.Forall2

/-!
# Documents that state definitions

A document states a definition when every part of it that is asked for one can be read so.  Strings
name types, objects whose `type` is a string state fields and are not looked into any further, and
arrays and all other objects are read part by part.  This file defines:

* `Site`: a part that is asked for a definition, with the steps to it, and `sites`: all of them, in
  document order;
* `statedPath`: the written form of the steps in an error;
* `Site.fault?`: what is wrong at a site by itself;
* `Mirrors`: a definition of the same shape as a document.

The main statement is `ofJson_grammar`: a document is refused exactly for the first fault among its
sites, and any other document states the one definition that mirrors it.
-/

namespace Conform

/-! ## Sites -/

/-- A part of a document that is asked for a definition, with the steps to it. -/
structure Site where
  steps : List TreeStep
  value : Json

mutual

/-- The sites at and below the end of some steps, in document order. -/
def sitesAt (steps : List TreeStep) : Json → List Site
  | .array items => ⟨steps, .array items⟩ :: itemSites (steps ++ [.items]) items
  | .object members =>
    ⟨steps, .object members⟩ ::
      match Json.lookup "type" members with
      -- The members of a field are constraints and no definitions.
      | some (.string _) => []
      | _ => memberSites steps members
  | .null => [⟨steps, .null⟩]
  | .bool b => [⟨steps, .bool b⟩]
  | .number n => [⟨steps, .number n⟩]
  | .string name => [⟨steps, .string name⟩]

/-- The sites of items, which all have the same steps. -/
def itemSites (steps : List TreeStep) : List Json → List Site
  | [] => []
  | item :: rest => sitesAt steps item ++ itemSites steps rest

def memberSites (steps : List TreeStep) : List (String × Json) → List Site
  | [] => []
  | (name, value) :: rest =>
    sitesAt (steps ++ [.member name]) value ++ memberSites steps rest

end

/-- The sites of a whole document. -/
def sites (document : Json) : List Site := sitesAt [] document

/-! ## Paths -/

/-- Steps behind a first one: each name after a point, and a pair of brackets for all items. -/
def writtenSteps : List TreeStep → String
  | [] => ""
  | .member name :: rest => "." ++ name ++ writtenSteps rest
  | .items :: rest => "[]" ++ writtenSteps rest

/-- The written form of steps.  Empty names are left out as long as nothing stands before them, and
no point stands before the first name. -/
def statedPath : List TreeStep → String
  | [] => ""
  | .member name :: rest => if name = "" then statedPath rest else name ++ writtenSteps rest
  | .items :: rest => "[]" ++ writtenSteps rest

theorem foldl_extend_of_ne_empty {path : String} (h : path ≠ "") (steps : List TreeStep) :
    steps.foldl TreeStep.extend path = path ++ writtenSteps steps := by
  induction steps generalizing path with
  | nil => simp [writtenSteps]
  | cons step rest ih =>
      cases step with
      | member name =>
          have hchild : TreeStep.extend path (.member name) = path ++ "." ++ name := by
            simp [TreeStep.extend, Path.child, h]
          have hne : path ++ "." ++ name ≠ "" := by simp
          rw [List.foldl_cons, hchild, ih hne, writtenSteps]
          simp only [String.append_assoc]
      | items =>
          have hne : path ++ "[]" ≠ "" := by simp
          rw [List.foldl_cons, TreeStep.extend, ih hne, writtenSteps, String.append_assoc]

/-- Steps that extend the empty path one by one are written in one go. -/
theorem canonicalPath_eq_statedPath (steps : List TreeStep) :
    canonicalPath steps = statedPath steps := by
  induction steps with
  | nil => rfl
  | cons step rest ih =>
      cases step with
      | member name =>
          have hchild : TreeStep.extend "" (.member name) = name := rfl
          rw [canonicalPath, List.foldl_cons, hchild, statedPath]
          split
          · next hempty =>
              rw [hempty]
              exact ih
          · next hne => exact foldl_extend_of_ne_empty hne rest
      | items => exact foldl_extend_of_ne_empty (by decide) rest

/-! ## Faults -/

/-- What is wrong at a site by itself: a scalar is no definition, and a field has no check of its
own in a document. -/
def Site.fault? (site : Site) : Option SchemaError :=
  match site.value with
  | .null | .bool _ | .number _ =>
    some (.invalidDefinition (statedPath site.steps) (.scalar site.value))
  | .object members =>
    match Json.lookup "type" members, Json.lookup "validate" members with
    | some (.string _), some _ =>
      some (.invalidConstraint (statedPath site.steps) "validate" .checkInData)
    | _, _ => none
  | .string _ | .array _ => none

/-- The reason of a failure, if there is one. -/
def failure? {ε α : Type} : Except ε α → Option ε
  | .ok _ => none
  | .error reason => some reason

section Failures

variable {ε α β : Type} {x : Except ε α}

theorem failure?_eq_none_iff : failure? x = none ↔ ∃ a, x = .ok a := by
  cases x <;> simp [failure?]

theorem failure?_eq_some_iff {reason : ε} : failure? x = some reason ↔ x = .error reason := by
  cases x <;> simp [failure?]

/-- A sequence fails as its first part does, or else as the rest does. -/
theorem failure?_bind {f : α → Except ε β} {verdict : Option ε}
    (h : ∀ a, failure? (f a) = verdict) : failure? (x >>= f) = (failure? x).or verdict := by
  cases x with
  | ok a => exact h a
  | error reason => rfl

theorem pure_eq_ok_iff {a b : α} : (pure a : Except ε α) = .ok b ↔ b = a := by
  constructor
  · intro h
    cases h
    rfl
  · rintro rfl
    rfl

/-- What is made of a result has no failure of its own. -/
theorem failure?_bind_pure (g : α → β) : failure? (x >>= fun a => pure (g a)) = failure? x := by
  cases x <;> rfl

end Failures

namespace Definition

variable {path : String} {members : List (String × Json)}

/-- Members fail to state a field for a check of its own alone. -/
theorem failure?_foldlM_addMember (path : String) (members : List (String × Json))
    (field : FieldDefinition) :
    failure? (members.foldlM (addMember path) field) =
      (Json.lookup "validate" members).map fun _ =>
        .invalidConstraint path "validate" .checkInData := by
  induction members generalizing field with
  | nil => rfl
  | cons member rest ih =>
      rcases member with ⟨key, value⟩
      rw [List.foldlM_cons, failure?_bind ih]
      by_cases hcheck : key = "validate"
      · subst hcheck
        rfl
      · have hstated : failure? (addMember path field (key, value)) = none := by
          simp only [addMember, if_neg hcheck]
          split_ifs <;> rfl
        simp [hstated, Json.lookup, hcheck]

theorem failure?_ofItems {steps : List TreeStep} {items : List Json}
    (hparts : ∀ item ∈ items, failure? (ofJsonAt (canonicalPath steps) item) =
      (sitesAt steps item).findSome? Site.fault?) :
    failure? (ofItems (canonicalPath steps) items) =
      (itemSites steps items).findSome? Site.fault? := by
  induction items with
  | nil => rfl
  | cons item rest ih =>
      have hrest := ih fun other hother => hparts other (List.mem_cons_of_mem _ hother)
      have hlast := fun definition : Definition =>
        (failure?_bind_pure (x := ofItems (canonicalPath steps) rest) (definition :: ·)).trans hrest
      rw [ofItems, failure?_bind hlast, hparts item List.mem_cons_self, itemSites,
        List.findSome?_append]

theorem failure?_ofMembers (steps : List TreeStep)
    (hparts : ∀ member ∈ members, ∀ steps, failure? (ofJsonAt (canonicalPath steps) member.2) =
      (sitesAt steps member.2).findSome? Site.fault?) :
    failure? (ofMembers (canonicalPath steps) members) =
      (memberSites steps members).findSome? Site.fault? := by
  induction members with
  | nil => rfl
  | cons member rest ih =>
      rcases member with ⟨name, value⟩
      have hrest := ih fun other hother => hparts other (List.mem_cons_of_mem _ hother)
      have hlast := fun definition : Definition =>
        (failure?_bind_pure (x := ofMembers (canonicalPath steps) rest)
          ((name, definition) :: ·)).trans hrest
      have hfirst := hparts (name, value) List.mem_cons_self (steps ++ [.member name])
      rw [canonicalPath_append] at hfirst
      rw [memberSites, List.findSome?_append, ← hfirst]
      exact failure?_bind hlast

/-- A document fails to state a definition for the first fault among its sites. -/
theorem failure?_ofJsonAt (document : Json) (steps : List TreeStep) :
    failure? (ofJsonAt (canonicalPath steps) document) =
      (sitesAt steps document).findSome? Site.fault? := by
  induction document using Json.induct generalizing steps with
  | null | bool _ | number _ =>
      rw [canonicalPath_eq_statedPath]
      rfl
  | string name => rfl
  | array items ih =>
      have hitems := failure?_ofItems fun item hitem => ih item hitem (steps ++ [.items])
      rw [canonicalPath_append] at hitems
      exact (failure?_bind_pure Definition.array).trans hitems
  | object members ih =>
      have hmembers := failure?_ofMembers steps ih
      rw [ofJsonAt, sitesAt, List.findSome?_cons]
      split
      · next name htype =>
          rw [failure?_bind_pure Definition.field, fieldOfMembers, failure?_foldlM_addMember,
            canonicalPath_eq_statedPath]
          simp only [Site.fault?, htype]
          cases Json.lookup "validate" members <;> rfl
      · next hother =>
          rw [failure?_bind_pure Definition.object, hmembers]
          simp only [Site.fault?]
          split
          · next hfault =>
            split at hfault
            · next name _ htype _ => exact absurd htype (hother name)
            · cases hfault
          · rfl

end Definition

/-! ## Mirrored documents -/

/-- The field that members state: every member but `type` and `default` is a constraint. -/
def mirroredField (name : String) (members : List (String × Json)) : FieldDefinition where
  type := .name name
  constraints := members.filter fun member => member.1 != "type" && member.1 != "default"
  default := (Json.lookup "default" members).map .fixed

/-- A definition of the same shape as a document. -/
inductive Mirrors : Json → Definition → Prop
  | type (name : String) : Mirrors (.string name) (.type (.name name))
  | field {name : String} {members : List (String × Json)}
      (htype : Json.lookup "type" members = some (.string name))
      (hcheck : Json.lookup "validate" members = none) :
      Mirrors (.object members) (.field (mirroredField name members))
  | object {members : List (String × Json)} {definitions : List (String × Definition)}
      (htype : ∀ name, Json.lookup "type" members ≠ some (.string name))
      (h : Memberwise Mirrors members definitions) : Mirrors (.object members) (.object definitions)
  | array {items : List Json} {definitions : List Definition}
      (h : List.Forall₂ Mirrors items definitions) : Mirrors (.array items) (.array definitions)

namespace Mirrors

variable {members : List (String × Json)} {definition : Definition}

theorem field_iff {name : String} (htype : Json.lookup "type" members = some (.string name)) :
    Mirrors (.object members) definition ↔
      Json.lookup "validate" members = none ∧ definition = .field (mirroredField name members) := by
  constructor
  · intro h
    cases h with
    | field hname hcheck =>
        rw [htype] at hname
        cases hname
        exact ⟨hcheck, rfl⟩
    | object hother => exact absurd htype (hother name)
  · rintro ⟨hcheck, rfl⟩
    exact .field htype hcheck

theorem object_iff (htype : ∀ name, Json.lookup "type" members ≠ some (.string name)) :
    Mirrors (.object members) definition ↔
      ∃ definitions, Memberwise Mirrors members definitions ∧ definition = .object definitions := by
  constructor
  · intro h
    cases h with
    | field hname => exact absurd hname (htype _)
    | object _ hmembers => exact ⟨_, hmembers, rfl⟩
  · rintro ⟨definitions, hmembers, rfl⟩
    exact .object htype hmembers

theorem array_iff {items : List Json} :
    Mirrors (.array items) definition ↔
      ∃ definitions, List.Forall₂ Mirrors items definitions ∧ definition = .array definitions := by
  constructor
  · intro h
    cases h with
    | array hitems => exact ⟨_, hitems, rfl⟩
  · rintro ⟨definitions, hitems, rfl⟩
    exact .array hitems

end Mirrors

/-- Every object of a document lists each key once. -/
def Json.HasKeysOnce (document : Json) : Prop :=
  document.Everywhere fun part => ∀ members, part = .object members → (members.map (·.1)).Nodup

namespace Definition

variable {path : String} {members : List (String × Json)}

/-- A constraint that is stated leaves the keys of other members free. -/
theorem lookup_constrain_eq_none {field : FieldDefinition} {key : String}
    (hkey : key ∉ members.map (·.1))
    (hfree : ∀ member ∈ members, Json.lookup member.1 field.constraints = none) (value : Json) :
    ∀ member ∈ members, Json.lookup member.1 (field.constrain key value).constraints = none := by
  intro member hmember
  have hne : member.1 ≠ key := by
    rintro rfl
    exact hkey (List.mem_map.2 ⟨member, hmember, rfl⟩)
  rw [FieldDefinition.constrain, Json.lookup_insert_of_ne hne]
  exact hfree member hmember

/-- Members of different names are kept in order, as the default or as constraints. -/
theorem foldlM_addMember_eq_ok (path : String) (field : FieldDefinition)
    (hkeys : (members.map (·.1)).Nodup)
    (hnew : ∀ member ∈ members, Json.lookup member.1 field.constraints = none)
    (hcheck : Json.lookup "validate" members = none) :
    members.foldlM (addMember path) field = .ok
      { field with
        constraints := field.constraints ++
          members.filter fun member => member.1 != "type" && member.1 != "default"
        default := ((Json.lookup "default" members).map .fixed).or field.default } := by
  induction members generalizing field with
  | nil => simp [pure, Except.pure]
  | cons member rest ih =>
      rcases member with ⟨key, value⟩
      obtain ⟨hother, hunique⟩ := List.nodup_cons.1 hkeys
      have hrest : ∀ member ∈ rest, Json.lookup member.1 field.constraints = none :=
        fun member hmember => hnew member (List.mem_cons_of_mem _ hmember)
      have hnot : key ≠ "validate" := by
        rintro rfl
        simp [Json.lookup] at hcheck
      have hcheck : Json.lookup "validate" rest = none := by
        simpa [Json.lookup, hnot] using hcheck
      rw [List.foldlM_cons]
      by_cases htype : key = "type"
      · subst htype
        exact (ih field hunique hrest hcheck).trans (by simp [Json.lookup])
      · by_cases hdefault : key = "default"
        · subst hdefault
          have hnone : Json.lookup "default" rest = none := Json.lookup_eq_none_iff.2 hother
          exact (ih { field with default := some (.fixed value) } hunique hrest
            hcheck).trans (by simp [Json.lookup, hnone])
        · have hstated : addMember path field (key, value) = .ok (field.constrain key value) := by
            simp [addMember, htype, hdefault, hnot]
          have hinsert : (field.constrain key value).constraints =
              field.constraints ++ [(key, value)] :=
            Json.insert_of_lookup_eq_none (hnew (key, value) List.mem_cons_self) value
          have hfree := lookup_constrain_eq_none hother hrest value
          rw [hstated]
          refine (ih _ hunique hfree hcheck).trans ?_
          rw [hinsert]
          simp [FieldDefinition.constrain, Json.lookup, htype, hdefault]

theorem fieldOfMembers_eq_ok_iff {name : String} (hkeys : (members.map (·.1)).Nodup)
    {field : FieldDefinition} :
    fieldOfMembers path name members = .ok field ↔
      Json.lookup "validate" members = none ∧ field = mirroredField name members := by
  cases hcheck : Json.lookup "validate" members with
  | none =>
      have hfield := foldlM_addMember_eq_ok path { type := .name name } hkeys
        (fun _ _ => rfl) hcheck
      rw [fieldOfMembers, hfield]
      simp [mirroredField, eq_comm]
  | some value =>
      have hfail := failure?_foldlM_addMember path members { type := .name name }
      rw [hcheck, Option.map_some, failure?_eq_some_iff] at hfail
      rw [fieldOfMembers, hfail]
      simp

theorem ofItems_eq_ok_iff {items : List Json} {definitions : List Definition}
    (hparts : ∀ item ∈ items, ∀ definition,
      ofJsonAt path item = .ok definition ↔ Mirrors item definition) :
    ofItems path items = .ok definitions ↔ List.Forall₂ Mirrors items definitions := by
  induction items generalizing definitions with
  | nil => simp [ofItems, eq_comm]
  | cons item rest ih =>
      have hfirst := hparts item List.mem_cons_self
      have hrest := fun definitions => @ih definitions fun other hother =>
        hparts other (List.mem_cons_of_mem _ hother)
      simp only [ofItems, bind_eq_ok, hfirst, hrest, List.forall₂_cons_left_iff]
      constructor
      · rintro ⟨definition, hitem, others, hothers, heq⟩
        exact ⟨definition, others, hitem, hothers, (Except.ok.inj heq).symm⟩
      · rintro ⟨definition, others, hitem, hothers, rfl⟩
        exact ⟨definition, hitem, others, hothers, rfl⟩

theorem ofMembers_eq_ok_iff {definitions : List (String × Definition)}
    (hparts : ∀ member ∈ members, ∀ path definition,
      ofJsonAt path member.2 = .ok definition ↔ Mirrors member.2 definition) :
    ofMembers path members = .ok definitions ↔ Memberwise Mirrors members definitions := by
  induction members generalizing definitions with
  | nil =>
      constructor
      · intro h
        cases h
        exact .nil
      · intro h
        cases h
        rfl
  | cons member rest ih =>
      rcases member with ⟨name, value⟩
      have hfirst := hparts (name, value) List.mem_cons_self
      have hrest := fun definitions => @ih definitions fun other hother =>
        hparts other (List.mem_cons_of_mem _ hother)
      simp only [ofMembers, bind_eq_ok, hfirst, hrest]
      constructor
      · rintro ⟨definition, hvalue, others, hothers, heq⟩
        cases heq
        exact .cons hvalue hothers
      · intro h
        cases h with
        | cons hvalue hothers => exact ⟨_, hvalue, _, hothers, rfl⟩

/-- A document states the definition that mirrors it, and no other. -/
theorem ofJsonAt_eq_ok_iff {document : Json} (h : document.HasKeysOnce) (path : String)
    (definition : Definition) :
    ofJsonAt path document = .ok definition ↔ Mirrors document definition := by
  induction document using Json.induct generalizing path definition with
  | null | bool _ | number _ =>
      constructor <;> intro h <;> cases h
  | string name =>
      constructor
      · intro h
        cases h
        exact .type name
      · intro h
        cases h
        rfl
  | array items ih =>
      have hitems := (Json.everywhere_array.1 h).2
      simp only [ofJsonAt, bind_eq_ok, pure_eq_ok_iff, Mirrors.array_iff,
        ofItems_eq_ok_iff fun item hitem => ih item hitem (hitems item hitem) _]
  | object members ih =>
      obtain ⟨hkeys, hvalues⟩ := Json.everywhere_object.1 h
      rw [ofJsonAt]
      split
      · next name htype =>
          simp only [bind_eq_ok, pure_eq_ok_iff, Mirrors.field_iff htype,
            fieldOfMembers_eq_ok_iff (hkeys members rfl)]
          constructor
          · rintro ⟨field, ⟨hcheck, rfl⟩, hdefinition⟩
            exact ⟨hcheck, hdefinition⟩
          · rintro ⟨hcheck, hdefinition⟩
            exact ⟨_, ⟨hcheck, rfl⟩, hdefinition⟩
      · next hother =>
          simp only [bind_eq_ok, pure_eq_ok_iff, Mirrors.object_iff hother,
            ofMembers_eq_ok_iff fun member hmember => ih member hmember (hvalues member hmember)]

/-- Any document is refused for the first fault among its sites, or states the one definition that
mirrors it. -/
theorem ofJson_grammar (document : Json) :
    ((∃ definition, ofJson document = .ok definition) ↔
      ∀ site ∈ sites document, site.fault? = none) ∧
    (∀ reason, ofJson document = .error reason ↔
      ∃ before site after, sites document = before ++ site :: after ∧
        site.fault? = some reason ∧ ∀ earlier ∈ before, earlier.fault? = none) ∧
    (document.HasKeysOnce → ∀ definition,
      ofJson document = .ok definition ↔ Mirrors document definition) := by
  have hfailure : failure? (ofJson document) = (sites document).findSome? Site.fault? :=
    failure?_ofJsonAt document []
  refine ⟨?_, fun reason => ?_, fun h => ofJsonAt_eq_ok_iff h ""⟩
  · rw [← failure?_eq_none_iff, hfailure, List.findSome?_eq_none_iff]
  · rw [← failure?_eq_some_iff, hfailure, List.findSome?_eq_some_iff]

/-- An object whose `type` is no string, so that its `validate` is a member like any other. -/
def eventDocument : Json :=
  .object [("type", .object [("type", .string "string"), ("default", .null), ("trim", .bool true)]),
    ("validate", .array [.string "date"])]

/-- Two faults, the first of which is in an item below a member of no name. -/
def faultyDocument : Json :=
  .object [("", .object [("tags", .array [.string "string",
    .object [("type", .string "number"), ("validate", .bool true)], .null])])]

theorem ofJson_grammar_event :
    eventDocument.HasKeysOnce ∧
      Mirrors eventDocument (.object [
        ("type", .field
          { type := .name "string"
            constraints := [("trim", .bool true)]
            default := some (.fixed .null) }),
        ("validate", .array [.type (.name "date")])]) ∧
      ofJson faultyDocument =
        .error (.invalidConstraint "tags[]" "validate" .checkInData) := by
  have hkeys : eventDocument.HasKeysOnce := by
    simp [Json.HasKeysOnce, eventDocument, Json.Everywhere, Json.EverywhereItems,
      Json.EverywhereMembers]
  refine ⟨hkeys, ((ofJson_grammar eventDocument).2.2 hkeys _).1 rfl,
    ((ofJson_grammar faultyDocument).2.1 _).2 ?_⟩
  refine ⟨(sites faultyDocument).take 4, (sites faultyDocument)[4], (sites faultyDocument).drop 5,
    rfl, rfl, ?_⟩
  -- The root, the member, the array and its first item are all free of faults.
  have hearlier : ((sites faultyDocument).take 4).all (·.fault?.isNone) = true := rfl
  simpa using hearlier

end Definition

end Conform
