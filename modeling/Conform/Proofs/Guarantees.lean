import Conform.Proofs.CanonicalDates
import Conform.Proofs.Registrations
import Conform.Proofs.Stated

/-!
# What resolution guarantees

Checks rely on what resolution has made sure of and do not ask for it again.  This file defines:

* `Definition.Occurs`: a definition is a part of another, at any depth;
* `Definition.IsAccepted`: a part is accepted, as far as it goes without the parts below it;
* `Definition.IsFaulty`: a part is refused for its type, its names or its number of items;
* `Facets.BoundsNumbers`, `Facets.BoundsDates`: bounds that the rules of numbers or of dates heed;
* `Node.IsSound`: what every node of a resolved tree fulfils.

The main statement is `resolve_guarantees`.
-/

namespace Conform

/-! ## Parts of definitions -/

/-- A definition is a part of another, at any depth; it is a part of itself. -/
inductive Definition.Occurs (part : Definition) : Definition → Prop
  | here : Occurs part part
  | member {name : String} {definition : Definition} {members : List (String × Definition)}
      (hmember : (name, definition) ∈ members) (hpart : Occurs part definition) :
      Occurs part (.object members)
  | item {definition : Definition} {items : List Definition} (hitem : definition ∈ items)
      (hpart : Occurs part definition) : Occurs part (.array items)

namespace Definition

variable {p : Definition → Prop}

theorem forall_occurs_type {ref : TypeRef} :
    (∀ part : Definition, part.Occurs (.type ref) → p part) ↔ p (.type ref) := by
  constructor
  · exact fun h => h _ .here
  · rintro hself part ⟨⟩
    exact hself

theorem forall_occurs_field {definition : FieldDefinition} :
    (∀ part : Definition, part.Occurs (.field definition) → p part) ↔ p (.field definition) := by
  constructor
  · exact fun h => h _ .here
  · rintro hself part ⟨⟩
    exact hself

theorem forall_occurs_object {members : List (String × Definition)} :
    (∀ part : Definition, part.Occurs (.object members) → p part) ↔
      p (.object members) ∧
        ∀ member ∈ members, ∀ part : Definition, part.Occurs member.2 → p part := by
  constructor
  · exact fun h => ⟨h _ .here, fun member hmember part hpart => h part (.member hmember hpart)⟩
  · rintro ⟨hself, hmembers⟩ part hpart
    cases hpart with
    | here => exact hself
    | member hmember hpart => exact hmembers _ hmember part hpart

theorem forall_occurs_array {items : List Definition} :
    (∀ part : Definition, part.Occurs (.array items) → p part) ↔
      p (.array items) ∧ ∀ item ∈ items, ∀ part : Definition, part.Occurs item → p part := by
  constructor
  · exact fun h => ⟨h _ .here, fun item hitem part hpart => h part (.item hitem hpart)⟩
  · rintro ⟨hself, hitems⟩ part hpart
    cases hpart with
    | here => exact hself
    | item hitem hpart => exact hitems _ hitem part hpart

end Definition

/-! ## Parts that are accepted -/

/-- A part is accepted, as far as it goes without the parts below it. -/
def Definition.IsAccepted (options : Options) (registry : Registry) : Definition → Prop
  | type ref => ∃ type, registry.resolve ref = .ok type
  | field definition => ∃ field, (resolveField options registry "" definition).result = .ok field
  | object members =>
      (members.map (·.1)).Nodup ∧ ∀ name ∈ members.map (·.1), isPathName name = true
  | array items => ∃ item, items = [item]

variable {options : Options} {registry : Registry}

/-- Members have counterparts when each of them has one. -/
theorem Memberwise.exists_iff {α β : Type} {R : α → β → Prop} {members : List (String × α)} :
    (∃ others, Memberwise R members others) ↔ ∀ member ∈ members, ∃ b, R member.2 b := by
  induction members with
  | nil => exact ⟨fun _ member hmember => absurd hmember List.not_mem_nil, fun _ => ⟨[], .nil⟩⟩
  | cons member rest ih =>
      rcases member with ⟨name, a⟩
      rw [List.forall_mem_cons, ← ih]
      constructor
      · rintro ⟨_, hall⟩
        cases hall with
        | cons hab hrest => exact ⟨⟨_, hab⟩, _, hrest⟩
      · rintro ⟨⟨b, hab⟩, others, hrest⟩
        exact ⟨(name, b) :: others, .cons hab hrest⟩

namespace Definition

/-- A definition states a tree exactly when each of its parts is accepted. -/
theorem exists_states_iff {definition : Definition} :
    (∃ node, definition.States options registry node) ↔
      ∀ part : Definition, part.Occurs definition → part.IsAccepted options registry := by
  induction definition using Definition.induct with
  | type ref =>
      rw [forall_occurs_type]
      simp [states_iff, resolveNode, Noted.bind_eq_ok, IsAccepted]
  | field definition =>
      rw [forall_occurs_field]
      simp [states_iff, resolveNode, Noted.bind_eq_ok, IsAccepted]
  | object definitions ih =>
      rw [forall_occurs_object]
      constructor
      · rintro ⟨node, hnode⟩
        obtain ⟨members, -, hall, hnames⟩ := states_object.1 hnode
        have hstated := Memberwise.exists_iff.1 ⟨members, hall⟩
        exact ⟨hnames, fun member hmember => (ih member hmember).1 (hstated member hmember)⟩
      · rintro ⟨hnames, hparts⟩
        obtain ⟨members, hall⟩ := Memberwise.exists_iff.2
          fun member hmember => (ih member hmember).2 (hparts member hmember)
        exact ⟨.object members, states_object.2 ⟨members, rfl, hall, hnames⟩⟩
  | array items ih =>
      rw [forall_occurs_array]
      constructor
      · rintro ⟨node, hnode⟩
        obtain ⟨item, tree, rfl, -, htree⟩ := states_array.1 hnode
        refine ⟨⟨item, rfl⟩, fun other hother => ?_⟩
        rw [List.mem_singleton.1 hother]
        exact (ih item List.mem_cons_self).1 ⟨tree, htree⟩
      · rintro ⟨⟨item, rfl⟩, hparts⟩
        obtain ⟨tree, htree⟩ :=
          (ih item List.mem_cons_self).2 (hparts item List.mem_cons_self)
        exact ⟨.array tree, states_array.2 ⟨item, tree, rfl, rfl, htree⟩⟩

/-- A root is resolved exactly when it is an object all of whose parts are accepted. -/
theorem exists_resolve_iff {definition : Definition} :
    (∃ members, (resolve options registry definition).result = .ok members) ↔
      (∃ definitions, definition = .object definitions) ∧
        ∀ part : Definition, part.Occurs definition → part.IsAccepted options registry := by
  simp only [resolve_eq_ok, ← exists_states_iff]
  constructor
  · rintro ⟨members, hstates⟩
    refine ⟨?_, _, hstates⟩
    cases definition with
    | object definitions => exact ⟨definitions, rfl⟩
    | type _ | field _ => simp [states_iff, resolveNode, Noted.bind_eq_ok] at hstates
    | array items => simp [states_array] at hstates
  · rintro ⟨⟨definitions, rfl⟩, node, hstates⟩
    obtain ⟨members, rfl, -⟩ := states_object.1 hstates
    exact ⟨members, hstates⟩

end Definition

/-! ## Parts that are refused -/

/-- A part is refused for its type, its names or its number of items. -/
inductive Definition.IsFaulty (registry : Registry) : Definition → Prop
  | unknownType {ref : TypeRef} (h : registry.find? ref.key = none) : IsFaulty registry (.type ref)
  | unknownFieldType {field : FieldDefinition} (h : registry.find? field.type.key = none) :
      IsFaulty registry (.field field)
  | repeatedName {members : List (String × Definition)} (h : ¬ (members.map (·.1)).Nodup) :
      IsFaulty registry (.object members)
  | badName {name : String} {members : List (String × Definition)}
      (hname : name ∈ members.map (·.1))
      (hbad : name = "" ∨ '.' ∈ name.toList ∨ '[' ∈ name.toList ∨ ']' ∈ name.toList) :
      IsFaulty registry (.object members)
  | itemCount {items : List Definition} (h : items.length ≠ 1) : IsFaulty registry (.array items)

/-- A field has the type to which its definition refers. -/
theorem resolve_of_resolveField {path : String} {definition : FieldDefinition} {field : Field}
    (h : (resolveField options registry path definition).result = .ok field) :
    registry.resolve definition.type = .ok field.type :=
  (resolveField_eq_ok_iff.1 h).1

namespace Definition

theorem IsFaulty.not_isAccepted {part : Definition} (h : part.IsFaulty registry) :
    ¬ part.IsAccepted options registry := by
  cases h with
  | unknownType hnone =>
      rintro ⟨type, htype⟩
      exact absurd (hnone.symm.trans (Registry.resolve_eq_ok.1 htype)) nofun
  | unknownFieldType hnone =>
      rintro ⟨field, hfield⟩
      have htype := resolve_of_resolveField hfield
      exact absurd (hnone.symm.trans (Registry.resolve_eq_ok.1 htype)) nofun
  | repeatedName hrepeated =>
      rintro ⟨hnodup, -⟩
      exact hrepeated hnodup
  | badName hname hbad =>
      rintro ⟨-, hnames⟩
      obtain ⟨hempty, hpoint, hopen, hclose⟩ := isPathName_iff.1 (hnames _ hname)
      rcases hbad with hbad | hbad | hbad | hbad
      · exact hempty hbad
      · exact hpoint hbad
      · exact hopen hbad
      · exact hclose hbad
  | itemCount hcount =>
      rintro ⟨item, rfl⟩
      exact hcount rfl

/-- A definition with a faulty part at any depth is refused. -/
theorem IsFaulty.resolve_eq_error {part definition : Definition} (h : part.IsFaulty registry)
    (hoccurs : part.Occurs definition) :
    ∃ reason, (resolve options registry definition).result = .error reason := by
  cases hresult : (resolve options registry definition).result with
  | error reason => exact ⟨reason, rfl⟩
  | ok members =>
      obtain ⟨-, hparts⟩ := exists_resolve_iff.1 ⟨members, hresult⟩
      exact absurd (hparts part hoccurs) h.not_isAccepted

end Definition

/-! ## Bounds that are heeded -/

/-- The bounds are numbers, and the rule of numbers passes over none of them. -/
structure Facets.BoundsNumbers (facets : Facets) : Prop where
  min : ∀ clause ∈ facets.min, ∃ bound, clause.value = .number bound
  max : ∀ clause ∈ facets.max, ∃ bound, clause.value = .number bound
  heeded : ∀ (kind : Kind) (value : Json) (path : String) (output : Json),
    kind.readNumber facets value path = .ok output →
      ∃ x asGiven, Kind.numeral? facets.coerce value = some (.finite x, asGiven) ∧
        (∀ clause ∈ facets.min, ∃ bound, clause.value = .number bound ∧ bound ≤ x) ∧
        ∀ clause ∈ facets.max, ∃ bound, clause.value = .number bound ∧ x ≤ bound

/-- The bounds are dates, and the rule of dates passes over none of them. -/
structure Facets.BoundsDates (facets : Facets) : Prop where
  min : ∀ clause ∈ facets.min, ∃ bound, clause.value = .date bound
  max : ∀ clause ∈ facets.max, ∃ bound, clause.value = .date bound
  heeded : ∀ (value : Json) (path : String) (output : Json),
    Kind.readDate facets value path = .ok output →
      ∃ t, Kind.instant? facets.coerce value = some t ∧
        (∀ clause ∈ facets.min, ∃ bound, clause.value = .date bound ∧ ¬ t < bound) ∧
        ∀ clause ∈ facets.max, ∃ bound, clause.value = .date bound ∧ ¬ bound < t

theorem Bound.exists_number {bound : Bound} (h : bound.isDate = false) :
    ∃ x, bound = .number x := by
  cases bound with
  | number x => exact ⟨x, rfl⟩
  | date t => exact Bool.noConfusion h

theorem Bound.exists_date {bound : Bound} (h : bound.isDate = true) : ∃ t, bound = .date t := by
  cases bound with
  | number x => exact Bool.noConfusion h
  | date t => exact ⟨t, rfl⟩

namespace Facets

variable {facets : Facets}

theorem HasBounds.boundsNumbers (h : facets.HasBounds false) : facets.BoundsNumbers where
  min := fun clause hclause => Bound.exists_number (h.min clause hclause)
  max := fun clause hclause => Bound.exists_number (h.max clause hclause)
  heeded := by
    intro kind value path output hread
    obtain ⟨x, asGiven, hnumeral, hcheck⟩ := Kind.readNumber_eq_ok.1 hread
    obtain ⟨-, -, hmin, hmax⟩ := Kind.checkNumber_eq_ok.1 hcheck
    exact ⟨x, asGiven, hnumeral,
      fun clause hclause => Kind.exists_of_atLeast rfl (h.min clause hclause) (hmin clause hclause),
      fun clause hclause => Kind.exists_of_atMost rfl (h.max clause hclause) (hmax clause hclause)⟩

theorem HasBounds.boundsDates (h : facets.HasBounds true) : facets.BoundsDates where
  min := fun clause hclause => Bound.exists_date (h.min clause hclause)
  max := fun clause hclause => Bound.exists_date (h.max clause hclause)
  heeded := by
    intro value path output hread
    obtain ⟨t, hinstant, -, hmin, hmax⟩ := Kind.readDate_eq_ok.1 hread
    exact ⟨t, hinstant,
      fun clause hclause => Kind.exists_of_notBefore (h.min clause hclause) (hmin clause hclause),
      fun clause hclause => Kind.exists_of_notAfter (h.max clause hclause) (hmax clause hclause)⟩

end Facets

/-! ## Trees -/

/-- A field has a type that the registry finds, and bounds that the rules of its base heed. -/
structure Field.IsSound (registry : Registry) (field : Field) : Prop where
  known : ∃ ref, registry.resolve ref = .ok field.type
  dates : field.type.info.base = some .date → field.facets.BoundsDates
  numbers : field.type.info.base ≠ some .date → field.facets.BoundsNumbers

/-- The members of an object have names of their own without punctuation, and members that are not
declared are kept exactly where no member is a field. -/
structure Node.AreSound (members : List (String × Node)) : Prop where
  nodup : (members.map (·.1)).Nodup
  plain : ∀ name ∈ members.map (·.1),
    name ≠ "" ∧ '.' ∉ name.toList ∧ '[' ∉ name.toList ∧ ']' ∉ name.toList
  passthrough : isPassthrough members = true ↔
    ∀ member ∈ members, ∀ field, member.2 ≠ .field field

/-- What every node of a resolved tree fulfils. -/
def Node.IsSound (registry : Registry) : Node → Prop
  | field f => f.IsSound registry
  | object members => Node.AreSound members
  | array _ => True

theorem isPassthrough_iff {members : List (String × Node)} :
    isPassthrough members = true ↔ ∀ member ∈ members, ∀ field, member.2 ≠ .field field := by
  have hfield : ∀ node : Node, node.isField ≠ true ↔ ∀ field, node ≠ .field field := by
    intro node
    cases node <;> simp [Node.isField]
  rw [isPassthrough, Bool.not_eq_true', List.any_eq_false]
  exact forall₂_congr fun member _ => hfield member.2

theorem FieldType.isDated_iff {type : FieldType} :
    type.isDated = true ↔ type.info.base = some .date := by
  rw [isDated, beq_iff_eq]

theorem Field.IsResolved.isSound {field : Field} (h : field.IsResolved options registry) :
    field.IsSound registry where
  known := by
    cases h with
    | bare htype => exact ⟨_, htype⟩
    | stated hfield => exact ⟨_, resolve_of_resolveField hfield⟩
  dates := by
    intro hbase
    have hdated : field.type.isDated = true := FieldType.isDated_iff.2 hbase
    have hbounds := h.hasBounds
    rw [hdated] at hbounds
    exact hbounds.boundsDates
  numbers := by
    intro hbase
    have hdated : field.type.isDated = false :=
      Bool.eq_false_iff.2 fun h => hbase (FieldType.isDated_iff.1 h)
    have hbounds := h.hasBounds
    rw [hdated] at hbounds
    exact hbounds.boundsNumbers

theorem Node.IsResolved.isSound {node : Node} (h : node.IsResolved options registry) :
    node.IsSound registry := by
  cases node with
  | field f => exact Field.IsResolved.isSound h
  | object members =>
      refine ⟨h.1, ?_, isPassthrough_iff⟩
      intro name hname
      obtain ⟨member, hmember, rfl⟩ := List.mem_map.1 hname
      exact isPathName_iff.1 (h.2 member hmember)
  | array item => exact trivial

/-- A root is resolved when all of its parts are accepted, and then every node of its tree is sound;
a definition with a faulty part at any depth is refused. -/
theorem resolve_guarantees (options : Options) (registry : Registry) (definition : Definition) :
    ((∃ members, (resolve options registry definition).result = .ok members) ↔
      (∃ definitions, definition = .object definitions) ∧
        ∀ part : Definition, part.Occurs definition → part.IsAccepted options registry) ∧
      (∀ members, (resolve options registry definition).result = .ok members →
        (Node.object members).Everywhere (Node.IsSound registry)) ∧
      ∀ part : Definition, part.Occurs definition → part.IsFaulty registry →
        ∃ reason, (resolve options registry definition).result = .error reason := by
  refine ⟨Definition.exists_resolve_iff, ?_, ?_⟩
  · intro members h
    exact (resolve_isResolved h).mono fun node hnode => hnode.isSound
  · intro part hoccurs hfaulty
    exact hfaulty.resolve_eq_error hoccurs

/-- Three seats at most. -/
def seatLimit : Json.Number := .integer 3 (by decide)

/-- A day with a bound, and items with a bounded number. -/
def eventDefinition : Definition :=
  .object [("day", .field { type := .kind .date, constraints := [("min", .string "2020-02-29")] }),
    ("tables", .array [.object [("seats", .field
      { type := .kind .int32, constraints := [("max", .number seatLimit)] })]])]

/-- The members that `eventDefinition` states. -/
def eventMembers : List (String × Node) :=
  [("day", .field ⟨.builtin .date,
      { coerce := true, min := some ⟨.date ⟨1582934400, 0⟩, none⟩ }⟩),
    ("tables", .array (.object [("seats", .field ⟨.builtin .int32,
      { coerce := true, max := some ⟨.number seatLimit.toBinary64, none⟩ }⟩)]))]

/-- The same, with a member that would stand for two steps of a path. -/
def pointedDefinition : Definition :=
  .object [("event", eventDefinition), ("tables", .array [.object [("a.b", eventDefinition)]])]

theorem resolve_guarantees_event :
    (resolve {} .builtin eventDefinition).result = .ok eventMembers ∧
      (∀ part : Definition, part.Occurs eventDefinition → part.IsAccepted {} .builtin) ∧
      (Node.object eventMembers).Everywhere (Node.IsSound .builtin) ∧
      ∃ reason, (resolve {} .builtin pointedDefinition).result = .error reason := by
  have hresolved : (resolve {} .builtin eventDefinition).result = .ok eventMembers := rfl
  obtain ⟨hresolves, hsound, -⟩ := resolve_guarantees {} .builtin eventDefinition
  obtain ⟨-, -, hrefused⟩ := resolve_guarantees {} .builtin pointedDefinition
  refine ⟨hresolved, (hresolves.1 ⟨_, hresolved⟩).2, hsound _ hresolved, ?_⟩
  exact hrefused _
    (.member (List.mem_cons_of_mem _ List.mem_cons_self) (.item List.mem_cons_self .here))
    (.badName List.mem_cons_self (Or.inr (Or.inl (by decide))))

end Conform
