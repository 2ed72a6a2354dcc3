import Conform.Proofs.Paths
import Conform.Proofs.Runs
import Conform.Schema

/-!
# What resolution makes

Everything that is said of a schema holds of the trees that resolution makes, not of any tree.  This
file defines:

* `Node.induct` and `Node.Everywhere`: induction over a tree, and a property of all of its nodes;
* `Field.IsResolved`: a field as resolution leaves it;
* `Node.IsResolved`: a node as resolution leaves it, each member under a name of its own that can
  stand in a path;
* `Facets.HasBounds`: bounds that are all on dates, or all on numbers;

and proves that every node of a resolved tree is of that form, and that fields bound dates exactly
when their types behave like dates.
-/

namespace Conform

/-! ## Trees -/

namespace Node

/-- Induction over the nodes of a tree. -/
@[elab_as_elim]
theorem induct {motive : Node → Prop} (field : ∀ field, motive (.field field))
    (object : ∀ members, (∀ member ∈ members, motive member.2) → motive (.object members))
    (array : ∀ item, motive item → motive (.array item)) (node : Node) : motive node := by
  -- A tree holds members, and those hold pairs: each of the three types has a motive of its own.
  refine @Node.rec motive (fun members => ∀ member ∈ members, motive member.2)
    (fun member => motive member.2) field object array ?_ ?_ ?_ node
  · exact fun member hmember => absurd hmember List.not_mem_nil
  · intro member rest hfirst hrest other hother
    rcases List.mem_cons.1 hother with rfl | hmem
    · exact hfirst
    · exact hrest other hmem
  · exact fun _ _ hnode => hnode

mutual

/-- A property that all nodes of a tree have. -/
def Everywhere (p : Node → Prop) : Node → Prop
  | field f => p (field f)
  | object members => p (object members) ∧ EverywhereMembers p members
  | array item => p (array item) ∧ item.Everywhere p

/-- A property that all nodes below members have. -/
def EverywhereMembers (p : Node → Prop) : List (String × Node) → Prop
  | [] => True
  | (_, node) :: rest => node.Everywhere p ∧ EverywhereMembers p rest

end

theorem everywhereMembers_iff {p : Node → Prop} {members : List (String × Node)} :
    EverywhereMembers p members ↔ ∀ member ∈ members, member.2.Everywhere p := by
  induction members with
  | nil => simp [EverywhereMembers]
  | cons member rest ih =>
      rcases member with ⟨name, node⟩
      simp [EverywhereMembers, ih]

theorem everywhere_object {p : Node → Prop} {members : List (String × Node)} :
    (object members).Everywhere p ↔
      p (.object members) ∧ ∀ member ∈ members, member.2.Everywhere p := by
  rw [Everywhere, everywhereMembers_iff]

theorem Everywhere.mono {p q : Node → Prop} (hpq : ∀ node, p node → q node) {node : Node}
    (h : node.Everywhere p) : node.Everywhere q := by
  induction node using Node.induct with
  | field f => exact hpq _ h
  | object members ih =>
      rcases everywhere_object.1 h with ⟨hnode, hmembers⟩
      exact everywhere_object.2
        ⟨hpq _ hnode, fun member hmember => ih member hmember (hmembers member hmember)⟩
  | array item ih => exact ⟨hpq _ h.1, ih h.2⟩

/-- The members of an object have names of their own, each of which can stand in a path. -/
def HasPathNames : Node → Prop
  | object members => (members.map (·.1)).Nodup ∧ ∀ member ∈ members, isPathName member.1 = true
  | field _ | array _ => True

end Node

/-- A name can stand in a path when it is not empty and free of points and brackets. -/
theorem isPathName_iff {name : String} :
    isPathName name = true ↔
      name ≠ "" ∧ '.' ∉ name.toList ∧ '[' ∉ name.toList ∧ ']' ∉ name.toList := by
  have hchars : (∀ c ∈ name.toList, ¬ (c == '.' || c == '[' || c == ']') = true) ↔
      '.' ∉ name.toList ∧ '[' ∉ name.toList ∧ ']' ∉ name.toList := by
    constructor
    · intro h
      exact ⟨fun hmem => h _ hmem rfl, fun hmem => h _ hmem rfl, fun hmem => h _ hmem rfl⟩
    · rintro ⟨hpoint, hopen, hclose⟩ c hmem hc
      simp only [Bool.or_eq_true, beq_iff_eq] at hc
      rcases hc with (rfl | rfl) | rfl
      · exact hpoint hmem
      · exact hopen hmem
      · exact hclose hmem
  rw [isPathName, Bool.and_eq_true, Bool.not_eq_true', Bool.not_eq_true', Bool.eq_false_iff,
    List.any_eq_false, hchars, ne_eq, String.isEmpty_iff]

/-- What can stand in a path according to resolution cannot be taken for punctuation. -/
theorem isPlainName_of_isPathName {name : String} (h : isPathName name = true) :
    IsPlainName name := by
  obtain ⟨hempty, hpoint, hopen, -⟩ := isPathName_iff.1 h
  exact ⟨hempty, hpoint, hopen⟩

/-! ## Success -/

/-- A sequence succeeds exactly when each of its parts does. -/
theorem Noted.bind_eq_ok {ε α β : Type} {x : Noted ε α} {f : α → Noted ε β} {b : β} :
    (x >>= f).result = .ok b ↔ ∃ a, x.result = .ok a ∧ (f a).result = .ok b := by
  rw [Noted.bind_result, Conform.bind_eq_ok]

@[simp] theorem Noted.pure_result {ε α : Type} (a : α) : (pure a : Noted ε α).result = .ok a := rfl

@[simp] theorem Noted.lift_result {ε α : Type} (x : Except ε α) :
    (liftM x : Noted ε α).result = x := rfl

/-- A name is taken up exactly when it can stand in a path and is new. -/
theorem demandName_eq_ok {path name : String} {taken : List String} {u : Unit} :
    demandName path name taken = .ok u ↔ isPathName name = true ∧ name ∉ taken := by
  unfold demandName
  by_cases hname : isPathName name = true
  · by_cases htaken : name ∈ taken <;> simp [hname, htaken]
  · simp [hname]

/-- What a definition makes of the facets that its constraints state. -/
def FieldDefinition.finish (definition : FieldDefinition) (dated : Bool) (facets : Facets) :
    Facets :=
  definition.override (if dated && facets.coerce then facets.withCanonicalDates else facets)

/-- A definition states a field of the type to which it refers, with the facets that its constraints
state. -/
theorem resolveField_eq_ok_iff {options : Options} {registry : Registry} {path : String}
    {definition : FieldDefinition} {field : Field} :
    (resolveField options registry path definition).result = .ok field ↔
      registry.resolve definition.type = .ok field.type ∧
        ∃ facets, (resolveConstraints field.type.isDated path definition.constraints
          (bareFacets options field.type)).result = .ok facets ∧
            field.facets = definition.finish field.type.isDated facets := by
  simp only [resolveField, Noted.bind_eq_ok, Noted.lift_result, Noted.pure_result]
  constructor
  · rintro ⟨type, htype, facets, hfacets, heq⟩
    cases heq
    exact ⟨htype, facets, hfacets, rfl⟩
  · rintro ⟨htype, facets, hfacets, heq⟩
    rcases field with ⟨type, finished⟩
    obtain rfl : finished = definition.finish type.isDated facets := heq
    exact ⟨type, htype, facets, hfacets, rfl⟩

/-! ## Resolved trees -/

/-- A field as resolution leaves it: a type without facets, or one with those of a definition. -/
inductive Field.IsResolved (options : Options) (registry : Registry) : Field → Prop
  | bare {ref : TypeRef} {type : FieldType} (h : registry.resolve ref = .ok type) :
      IsResolved options registry ⟨type, bareFacets options type⟩
  | stated {path : String} {definition : FieldDefinition} {field : Field}
      (h : (resolveField options registry path definition).result = .ok field) :
      IsResolved options registry field

/-- A node as resolution leaves it. -/
def Node.IsResolved (options : Options) (registry : Registry) : Node → Prop
  | field f => f.IsResolved options registry
  | object members => (object members).HasPathNames
  | array _ => True

variable {options : Options} {registry : Registry}

/-- Induction over the parts of a definition. -/
@[elab_as_elim]
theorem Definition.induct {motive : Definition → Prop} (type : ∀ ref, motive (.type ref))
    (field : ∀ field, motive (.field field))
    (object : ∀ members, (∀ member ∈ members, motive member.2) → motive (.object members))
    (array : ∀ items, (∀ item ∈ items, motive item) → motive (.array items))
    (definition : Definition) : motive definition := by
  -- As for trees, with a motive for the items of an array besides.
  refine @Definition.rec motive (fun members => ∀ member ∈ members, motive member.2)
    (fun items => ∀ item ∈ items, motive item) (fun member => motive member.2)
    type field object array ?_ ?_ ?_ ?_ ?_ definition
  · exact fun member hmember => absurd hmember List.not_mem_nil
  · intro member rest hfirst hrest other hother
    rcases List.mem_cons.1 hother with rfl | hmem
    · exact hfirst
    · exact hrest other hmem
  · exact fun item hitem => absurd hitem List.not_mem_nil
  · intro item rest hfirst hrest other hother
    rcases List.mem_cons.1 hother with rfl | hmem
    · exact hfirst
    · exact hrest other hmem
  · exact fun _ _ hdefinition => hdefinition

/-- Members are resolved under names of their own when their definitions are. -/
theorem resolveMembers_isResolved {path : String} {definitions : List (String × Definition)}
    (hparts : ∀ member ∈ definitions, ∀ path node,
      (resolveNode options registry path member.2).result = .ok node →
        node.Everywhere (Node.IsResolved options registry))
    {taken : List String} {members : List (String × Node)}
    (h : (resolveMembers options registry path taken definitions).result = .ok members) :
    (members.map (·.1)).Nodup ∧ ∀ member ∈ members, member.1 ∉ taken ∧
      isPathName member.1 = true ∧ member.2.Everywhere (Node.IsResolved options registry) := by
  -- The induction is on the definitions, for whatever names are taken ahead of them.
  induction definitions generalizing taken members with
  | nil =>
      obtain rfl : [] = members := by simpa [resolveMembers] using h
      exact ⟨List.nodup_nil, fun member hmember => absurd hmember List.not_mem_nil⟩
  | cons first rest ih =>
      rcases first with ⟨name, definition⟩
      simp only [resolveMembers, Noted.bind_eq_ok, Noted.lift_result, Noted.pure_result,
        demandName_eq_ok] at h
      rcases h with ⟨_, ⟨hname, hnew⟩, node, hnode, others, hothers, heq⟩
      obtain rfl : (name, node) :: others = members := by simpa using heq
      have hfirst := hparts (name, definition) List.mem_cons_self _ node hnode
      obtain ⟨hnodup, hrest⟩ :=
        ih (fun member hmember => hparts member (List.mem_cons_of_mem _ hmember)) hothers
      refine ⟨List.nodup_cons.2 ⟨?_, hnodup⟩, ?_⟩
      · -- A later member of this name would have been refused, for it is taken by then.
        intro hmem
        rcases List.mem_map.1 hmem with ⟨member, hmember, hsame⟩
        exact (hrest member hmember).1 (hsame ▸ List.mem_cons_self)
      · intro member hmember
        rcases List.mem_cons.1 hmember with rfl | hmember
        · exact ⟨hnew, hname, hfirst⟩
        · rcases hrest member hmember with ⟨htaken, hforms⟩
          exact ⟨fun hmem => htaken (List.mem_cons_of_mem _ hmem), hforms⟩

/-- Every node of a resolved tree is as resolution leaves it. -/
theorem resolveNode_isResolved {path : String} {definition : Definition} {node : Node}
    (h : (resolveNode options registry path definition).result = .ok node) :
    node.Everywhere (Node.IsResolved options registry) := by
  -- The induction is on the definition, for any path, since each part is resolved at its own.
  induction definition using Definition.induct generalizing path node with
  | type ref =>
      simp only [resolveNode, Noted.bind_eq_ok, Noted.lift_result, Noted.pure_result] at h
      rcases h with ⟨type, htype, heq⟩
      obtain rfl : Node.field ⟨type, bareFacets options type⟩ = node := by simpa using heq
      exact Field.IsResolved.bare htype
  | field definition =>
      simp only [resolveNode, Noted.bind_eq_ok, Noted.pure_result] at h
      rcases h with ⟨field, hfield, heq⟩
      obtain rfl : Node.field field = node := by simpa using heq
      exact Field.IsResolved.stated hfield
  | object definitions ih =>
      simp only [resolveNode, Noted.bind_eq_ok, Noted.pure_result] at h
      rcases h with ⟨members, hmembers, heq⟩
      obtain rfl : Node.object members = node := by simpa using heq
      obtain ⟨hnodup, hforms⟩ :=
        resolveMembers_isResolved (fun member hmember _ _ => ih member hmember) hmembers
      exact Node.everywhere_object.2 ⟨⟨hnodup, fun member hmember => (hforms member hmember).2.1⟩,
        fun member hmember => (hforms member hmember).2.2⟩
  | array items ih =>
      match items with
      | [item] =>
          simp only [resolveNode, Noted.bind_eq_ok, Noted.pure_result] at h
          rcases h with ⟨tree, htree, heq⟩
          obtain rfl : Node.array tree = node := by simpa using heq
          exact ⟨trivial, ih item List.mem_cons_self htree⟩
      -- Any other number of items is refused.
      | [] | _ :: _ :: _ => simp [resolveNode, Noted.ofExcept] at h

/-- A resolved root is an object all of whose nodes are as resolution leaves them. -/
theorem resolve_isResolved {definition : Definition} {members : List (String × Node)}
    (h : (resolve options registry definition).result = .ok members) :
    (Node.object members).Everywhere (Node.IsResolved options registry) := by
  cases definition with
  | object definitions =>
      obtain ⟨hnodup, hforms⟩ :=
        resolveMembers_isResolved (fun _ _ _ _ => resolveNode_isResolved) h
      exact Node.everywhere_object.2 ⟨⟨hnodup, fun member hmember => (hforms member hmember).2.1⟩,
        fun member hmember => (hforms member hmember).2.2⟩
  | type _ | field _ | array _ => simp [resolve, Noted.ofExcept] at h

/-! ## Bounds -/

/-- Whether a bound is on dates. -/
def Bound.isDate : Bound → Bool
  | number _ => false
  | date _ => true

/-- All bounds are on dates, or all of them on numbers. -/
structure Facets.HasBounds (dated : Bool) (facets : Facets) : Prop where
  min : ∀ clause ∈ facets.min, clause.value.isDate = dated
  max : ∀ clause ∈ facets.max, clause.value.isDate = dated

theorem isDate_of_bound? {dated : Bool} {json : Json} {bound : Bound}
    (h : bound? dated json = some bound) : bound.isDate = dated := by
  unfold bound? at h
  cases dated with
  | true =>
      rcases Option.map_eq_some_iff.1 h with ⟨t, -, rfl⟩
      rfl
  | false =>
      rcases Option.map_eq_some_iff.1 h with ⟨x, -, rfl⟩
      rfl

theorem isDate_of_readBound {dated : Bool} {json : Json} {clause : Clause Bound}
    (h : readBound dated json = .ok clause) : clause.value.isDate = dated := by
  rcases Conform.bind_eq_ok.1 h with ⟨given, -, hbound⟩
  cases hvalue : bound? dated given.value with
  | none => simp [hvalue] at hbound
  | some bound =>
      simp only [hvalue] at hbound
      cases hbound
      exact isDate_of_bound? hvalue

theorem bound_of_reading {dated : Bool} {json : Json} {clause : Clause Bound}
    (h : reading (readBound dated json) = .ok clause) : clause.value.isDate = dated :=
  isDate_of_readBound (mapError_eq_ok.1 h)

/-- A constraint keeps bounds of one sort, of which it may add one more. -/
theorem Facets.HasBounds.apply {dated : Bool} {facets facets' : Facets} {key : ConstraintKey}
    {json : Json} (h : facets.HasBounds dated)
    (happly : facets.apply dated key json = .ok facets') : facets'.HasBounds dated := by
  -- Only the two constraints on bounds read a bound; every other one leaves both as they are.
  cases key with
  | min =>
      rcases Conform.bind_eq_ok.1 happly with ⟨clause, hclause, hfacets⟩
      cases hfacets
      refine ⟨?_, h.max⟩
      rintro _ ⟨⟩
      exact bound_of_reading hclause
  | max =>
      rcases Conform.bind_eq_ok.1 happly with ⟨clause, hclause, hfacets⟩
      cases hfacets
      refine ⟨h.min, ?_⟩
      rintro _ ⟨⟩
      exact bound_of_reading hclause
  | pattern =>
      rcases Conform.bind_eq_ok.1 happly with ⟨text, -, hnext⟩
      rcases Conform.bind_eq_ok.1 hnext with ⟨clause, -, hfacets⟩
      cases hfacets
      exact ⟨h.min, h.max⟩
  | default =>
      cases happly
      exact ⟨h.min, h.max⟩
  | coerce | required | minLength | maxLength | allowed | trim | lowercase | uppercase | message =>
      rcases Conform.bind_eq_ok.1 happly with ⟨part, -, hfacets⟩
      cases hfacets
      exact ⟨h.min, h.max⟩

theorem hasBounds_of_resolveConstraints {dated : Bool} {path : String}
    {constraints : List (String × Json)} {facets facets' : Facets} (h : facets.HasBounds dated)
    (hresolve : (resolveConstraints dated path constraints facets).result = .ok facets') :
    facets'.HasBounds dated := by
  -- The facets are those after the constraints before, so the bounds so far are carried along.
  induction constraints generalizing facets with
  | nil =>
      cases hresolve
      exact h
  | cons constraint rest ih =>
      rcases constraint with ⟨key, json⟩
      unfold resolveConstraints at hresolve
      cases hkey : ConstraintKey.ofText? key with
      | none =>
          simp only [hkey, Noted.bind_eq_ok] at hresolve
          rcases hresolve with ⟨_, -, hrest⟩
          exact ih h hrest
      | some facet =>
          simp only [hkey, Noted.bind_eq_ok] at hresolve
          rcases hresolve with ⟨between, hbetween, hrest⟩
          exact ih (h.apply (mapError_eq_ok.1 hbetween)) hrest

theorem hasBounds_bareFacets (type : FieldType) (dated : Bool) :
    (bareFacets options type).HasBounds dated := by
  constructor
  · rintro clause ⟨⟩
  · rintro clause ⟨⟩

/-- A resolved field bounds dates exactly when its type behaves like dates. -/
theorem Field.IsResolved.hasBounds {field : Field} (h : field.IsResolved options registry) :
    field.facets.HasBounds field.type.isDated := by
  cases h with
  | bare _ => exact hasBounds_bareFacets _ _
  | stated h =>
      obtain ⟨-, facets, hfacets, hfinish⟩ := resolveField_eq_ok_iff.1 h
      have hbounds := hasBounds_of_resolveConstraints (hasBounds_bareFacets _ _) hfacets
      rw [hfinish, FieldDefinition.finish]
      -- Neither canonical dates nor what the definition states besides touch a bound.
      split <;> exact ⟨hbounds.min, hbounds.max⟩

end Conform
