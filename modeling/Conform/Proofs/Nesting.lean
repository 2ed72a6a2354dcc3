import Conform.Proofs.Acceptance
import Conform.Proofs.Stated
import Conform.Proofs.Wording

/-!
# Schemas within schemas

What a schema says of a document it also says of that document as a member of another one, and as an
item of an array there, except that violations are found further down.  A root is not resolved and
checked like the objects below it, and the items of an array are checked in a third way, so this is
a law about three ways through a tree.  This file defines:

* `Violation.Moved`: a violation, and the same violation further down;
* `Schema.under`, `Schema.listUnder`: the schemas of a document with one member, which is a document
  of the given schema, or an array of such documents.

The main statement is `validate_under`.
-/

namespace Conform

/-! ## Violations further down -/

/-- Two violations are the same, but for the second being found below a path. -/
structure Violation.Moved (base : String) (v w : Violation) : Prop where
  fault : w.fault = v.fault
  value : w.value = v.value
  path : w.path = base ++ "." ++ v.path

section

variable {base path path' : String}

theorem Violation.SameFault.moved {v w : Violation}
    (h : SameFault path (base ++ "." ++ path) v w) : Moved base v w := by
  refine ⟨h.fault, h.value, ?_⟩
  rw [h.other, h.path]

theorem child_ne_empty {name : String} (hname : name ≠ "") (path : String) :
    Path.child path name ≠ "" := by
  unfold Path.child
  split
  · exact hname
  · simp

theorem item_ne_empty (path : String) (position : Nat) : Path.item path position ≠ "" := by
  simp [Path.item]

/-- Below a path that is not empty a member has the path that it has there, further down. -/
theorem child_below (base : String) (hpath : path ≠ "") (name : String) :
    Path.child (base ++ "." ++ path) name = base ++ "." ++ Path.child path name := by
  have hbelow : (base ++ "." ++ path).isEmpty = false := by simp
  have hhere : path.isEmpty = false := String.isEmpty_eq_false_iff.2 hpath
  unfold Path.child
  rw [hbelow, hhere]
  simp only [Bool.false_eq_true, if_false, String.append_assoc]

theorem item_below (base path : String) (position : Nat) :
    Path.item (base ++ "." ++ path) position = base ++ "." ++ Path.item path position := by
  simp only [Path.item, String.append_assoc]

/-! ## The same tree further down -/

/-- What a field makes of a value plays out alike at all paths. -/
theorem Field.conform_moved {field : Field} (hbuiltin : (Node.field field).IsBuiltin)
    (hstatic : (Node.field field).IsStatic) (tolerant : Bool) (base path : String)
    (value : Option Json) :
    Run.Accord (Violation.Moved base) Eq (field.conform tolerant path value)
      (field.conform tolerant (base ++ "." ++ path) value) := by
  obtain ⟨kind, hkind⟩ := hbuiltin
  cases value with
  | some given =>
      have hends := checkPresent_sameEnd hkind hkind (.refl _) path (base ++ "." ++ path) given
      refine Run.Accord.bind (Run.Accord.lift (hends.mono (fun _ _ h => h.moved) fun _ _ h => h)) ?_
      rintro output _ rfl
      exact Run.Accord.pure rfl
  | none =>
      refine conform_none_accord ⟨rfl, rfl, rfl⟩ rfl (fun default hdefault => ?_) tolerant
      obtain ⟨value, hvalue⟩ := hstatic default hdefault
      exact ⟨value, hvalue, rfl⟩

/-- Members play out alike when the path of each is further down and each of them does. -/
theorem conformMembers_moved {tolerant : Bool} {members : List (String × Node)}
    (hchild : ∀ name, Path.child path' name = base ++ "." ++ Path.child path name)
    (hparts : ∀ member ∈ members, ∀ value, Run.Accord (Violation.Moved base) Eq
      (member.2.conform tolerant (Path.child path member.1) value)
      (member.2.conform tolerant (base ++ "." ++ Path.child path member.1) value))
    (given : Option (List (String × Json))) :
    Run.Accord (Violation.Moved base) Eq (conformMembers tolerant members path given)
      (conformMembers tolerant members path' given) := by
  induction members with
  | nil => exact Run.Accord.pure rfl
  | cons member rest ih =>
      rcases member with ⟨name, node⟩
      have hfirst := hparts (name, node) List.mem_cons_self (given.bind (Json.lookup name))
      have hrest := ih fun other hother => hparts other (List.mem_cons_of_mem _ hother)
      simp only [conformMembers, hchild]
      refine Run.Accord.bind hfirst ?_
      rintro first _ rfl
      refine Run.Accord.bind hrest ?_
      rintro others _ rfl
      exact Run.Accord.pure rfl

theorem conformItems_moved {conform : String → Json → Run Json} {items : List Json}
    (hparts : ∀ item ∈ items, ∀ path, path ≠ "" → Run.Accord (Violation.Moved base) Eq
      (conform path item) (conform (base ++ "." ++ path) item)) (path : String) (position : Nat) :
    Run.Accord (Violation.Moved base) Eq (conformItems conform path position items)
      (conformItems conform (base ++ "." ++ path) position items) := by
  induction items generalizing position with
  | nil => exact Run.Accord.pure rfl
  | cons item rest ih =>
      have hfirst := hparts item List.mem_cons_self _ (item_ne_empty path position)
      have hrest := ih (fun other hother => hparts other (List.mem_cons_of_mem _ hother))
        (position + 1)
      simp only [conformItems, item_below]
      refine Run.Accord.bind hfirst ?_
      rintro first _ rfl
      refine Run.Accord.bind hrest ?_
      rintro others _ rfl
      exact Run.Accord.pure rfl

/-- What a tree makes of a value plays out alike further down. -/
theorem Node.conform_moved (tolerant : Bool) {node : Node} (hbuiltin : node.Everywhere IsBuiltin)
    (hstatic : node.Everywhere IsStatic) (hnames : node.Everywhere HasPathNames) (base : String)
    (hpath : path ≠ "") (value : Option Json) :
    Run.Accord (Violation.Moved base) Eq (node.conform tolerant path value)
      (node.conform tolerant (base ++ "." ++ path) value) := by
  -- The induction is on the tree, for any path but the empty one, where no point is written.
  induction node using Node.induct generalizing path value with
  | field field => exact field.conform_moved hbuiltin hstatic tolerant base path value
  | object members ih =>
      rcases everywhere_object.1 hbuiltin with ⟨-, hbuiltin⟩
      rcases everywhere_object.1 hstatic with ⟨-, hstatic⟩
      rcases everywhere_object.1 hnames with ⟨⟨-, hplain⟩, hnames⟩
      refine Run.Accord.bind (conformMembers_moved (child_below base hpath) ?_ _) ?_
      · intro member hmember value
        have hname := (isPlainName_of_isPathName (hplain member hmember)).1
        exact ih member hmember (hbuiltin member hmember) (hstatic member hmember)
          (hnames member hmember) (child_ne_empty hname path) value
      · rintro made _ rfl
        exact Run.Accord.pure rfl
  | array item ih =>
      cases value with
      | none => exact Run.Accord.pure rfl
      | some value =>
          simp only [Node.conform]
          split
          · exact Run.Accord.pure rfl
          · cases value with
            | array items =>
                refine Run.Accord.bind (conformItems_moved ?_ path 0) ?_
                · intro element helement path hpath
                  have helem := ih hbuiltin.2 hstatic.2 hnames.2 hpath (some element)
                  unfold conformItem
                  split
                  · split
                    · exact Run.Accord.pure rfl
                    · exact Run.Accord.throw ⟨rfl, rfl, rfl⟩
                  · refine Run.Accord.bind helem ?_
                    rintro result _ rfl
                    exact Run.Accord.pure rfl
                · rintro made _ rfl
                  exact Run.Accord.pure rfl
            | _ => exact Run.Accord.throw ⟨rfl, rfl, rfl⟩

/-- What a root makes of an object, it makes of it as part of another document. -/
theorem conformRoot_moved (tolerant : Bool) {members : List (String × Node)}
    (hbuiltin : (Node.object members).Everywhere Node.IsBuiltin)
    (hstatic : (Node.object members).Everywhere Node.IsStatic)
    (hnames : (Node.object members).Everywhere Node.HasPathNames) (hbase : base ≠ "")
    {document : Json} (hobject : document.isObject = true) :
    Run.Accord (Violation.Moved base) (fun result value => value = some result)
      (conformRoot tolerant members document)
      ((Node.object members).conform tolerant base (some document)) := by
  rcases Node.everywhere_object.1 hbuiltin with ⟨-, hbuiltin⟩
  rcases Node.everywhere_object.1 hstatic with ⟨-, hstatic⟩
  rcases Node.everywhere_object.1 hnames with ⟨⟨-, hplain⟩, hnames⟩
  -- At the root no point is written; below it a point follows what stands before.
  have hchild : ∀ name, Path.child base name = base ++ "." ++ Path.child "" name := by
    intro name
    simp [Path.child, String.isEmpty_eq_false_iff.2 hbase]
  have hmembers : ∀ given, Run.Accord (Violation.Moved base) Eq
      (conformMembers tolerant members "" given) (conformMembers tolerant members base given) := by
    refine conformMembers_moved hchild ?_
    intro member hmember value
    have hname := (isPlainName_of_isPathName (hplain member hmember)).1
    exact Node.conform_moved tolerant (hbuiltin member hmember) (hstatic member hmember)
      (hnames member hmember) base (child_ne_empty hname "") value
  cases document with
  | object given =>
      refine Run.Accord.bind (hmembers (some given)) ?_
      rintro made _ rfl
      exact Run.Accord.pure rfl
  | null | bool _ | number _ | string _ | array _ => exact Bool.noConfusion hobject

/-! ## Items in a row -/

/-- Where each item plays out like a run of its own, all of those runs end with a value and the
items make these, or a first one stops and the items stop there. -/
theorem conformItems_ends {run : Json → Run Json} {conform : String → Json → Run Json}
    {items : List Json}
    (hparts : ∀ item ∈ items, ∀ position, Run.Accord (Violation.Moved (Path.item path position)) Eq
      (run item) (conform (Path.item path position) item)) (position : Nat) :
    (∃ made, List.Forall₂ (fun item out => run item = pure out) items made ∧
      conformItems conform path position items = pure made) ∨
    ∃ before item after v w, items = before ++ item :: after ∧
      (∀ passed ∈ before, ∃ out, run passed = pure out) ∧ run item = throw v ∧
      conformItems conform path position items = throw w ∧
      Violation.Moved (Path.item path (position + before.length)) v w := by
  induction items generalizing position with
  | nil => exact Or.inl ⟨[], .nil, rfl⟩
  | cons item rest ih =>
      have hrest := ih (fun other hother => hparts other (List.mem_cons_of_mem _ hother))
        (position + 1)
      rcases (hparts item List.mem_cons_self position).ends with
        ⟨out, _, rfl, hrun, hconform⟩ | ⟨v, w, hmoved, hrun, hconform⟩
      · rcases hrest with ⟨made, hmade, hitems⟩ |
          ⟨before, stopped, after, v, w, rfl, hbefore, hstopped, hitems, hmoved⟩
        · refine Or.inl ⟨out :: made, .cons hrun hmade, ?_⟩
          simp only [conformItems, hconform, hitems, pure_bind]
        · have hplace : position + 1 + before.length = position + (item :: before).length := by
            rw [List.length_cons]
            omega
          refine Or.inr ⟨item :: before, stopped, after, v, w, rfl, ?_, hstopped, ?_, ?_⟩
          · intro passed hpassed
            rcases List.mem_cons.1 hpassed with rfl | hpassed
            · exact ⟨out, hrun⟩
            · exact hbefore passed hpassed
          · simp only [conformItems, hconform, hitems, pure_bind]
            rfl
          · rw [← hplace]
            exact hmoved
      · refine Or.inr ⟨[], item, rest, v, w, rfl, ?_, hrun, ?_, hmoved⟩
        · exact fun passed hpassed => absurd hpassed List.not_mem_nil
        · simp only [conformItems, hconform]
          rfl

/-- Items that are kept as they were, or as they were made, are so one by one. -/
theorem conformItems_finish (coerce : Bool) (conform : String → Json → Run Json) (path : String)
    (position : Nat) (items : List Json) :
    conformItems (fun path item => do
        let made ← conform path item
        return if coerce then made else item) path position items = (do
      let made ← conformItems conform path position items
      return if coerce then made else items) := by
  induction items generalizing position with
  | nil => cases coerce <;> rfl
  | cons item rest ih =>
      simp only [conformItems, ih, bind_assoc, pure_bind]
      cases coerce <;> rfl

end

/-! ## Whole documents -/

/-- The schema of documents whose only member is a document of the given schema. -/
def Schema.under (schema : Schema) (name : String) : Schema :=
  ⟨schema.options, [(name, schema.root)]⟩

/-- The schema of documents whose only member is an array of documents of the given schema. -/
def Schema.listUnder (schema : Schema) (name : String) : Schema :=
  ⟨schema.options, [(name, .array schema.root)]⟩

section

variable {options : Options} {registry : Registry} {definition : Definition} {name : String}

/-- A definition with one member is resolved when that member is. -/
theorem resolve_single (hname : isPathName name = true) {node : Node}
    (h : definition.States options registry node) :
    (resolve options registry (.object [(name, definition)])).result = .ok [(name, node)] := by
  rw [Definition.resolve_eq_ok, Definition.states_object]
  refine ⟨_, rfl, .cons h .nil, List.nodup_singleton name, ?_⟩
  intro other hother
  rw [List.mem_singleton.1 hother]
  exact hname

/-- What a root with one member makes of a document with that member. -/
theorem conformRoot_single (tolerant : Bool) (name : String) (node : Node) (value : Json) :
    conformRoot tolerant [(name, node)] (.object [(name, value)]) = (do
      let result ← node.conform tolerant name (some value)
      return .object (memberOf name result)) := by
  have hkept : keptMembers [(name, node)] [(name, value)] = [] := by
    simp [keptMembers, undeclared]
  have hpath : Path.child "" name = name := rfl
  simp [conformRoot, conformMembers, Json.members?, Json.lookup, hkept, hpath]

/-- What a schema says of documents it says of them below a name: of a document as the only member
of another one, and of several documents in an array, up to the first one that is refused. -/
structure Schema.Nests (schema : Schema) (name : String) : Prop where
  member : ∀ document : Json, document.WellFormed → document.isObject = true →
    (∃ out, schema.validate document = pure out ∧
      (schema.under name).validate (.object [(name, document)]) = pure (.object [(name, out)])) ∨
    ∃ v w, schema.validate document = throw v ∧
      (schema.under name).validate (.object [(name, document)]) = throw w ∧ v.Moved name w
  items : ∀ items : List Json, (Json.array items).WellFormed →
    (∀ item ∈ items, item.isObject = true) →
    (∃ outs, List.Forall₂ (fun item out => schema.validate item = pure out) items outs ∧
      (schema.listUnder name).validate (.object [(name, .array items)]) =
        pure (.object [(name, .array outs)])) ∨
    ∃ before item after v w, items = before ++ item :: after ∧
      (∀ passed ∈ before, ∃ out, schema.validate passed = pure out) ∧
      schema.validate item = throw v ∧
      (schema.listUnder name).validate (.object [(name, .array items)]) = throw w ∧
      v.Moved (Path.item name before.length) w

/-- A document with one member is well-formed when that member is. -/
theorem wellFormed_single {value : Json} (h : value.WellFormed) (name : String) :
    (Json.object [(name, value)]).WellFormed := by
  refine Json.everywhere_object.2 ⟨List.nodup_singleton name, ?_⟩
  intro member hmember
  rw [List.mem_singleton.1 hmember]
  exact h

section

variable {schema : Schema}

/-- One document below a name. -/
theorem Schema.validate_member (hname : isPathName name = true)
    (hschema : (resolve options registry definition).result = .ok schema.members)
    (hunder : (resolve options registry (.object [(name, definition)])).result =
      .ok (schema.under name).members)
    (hbuiltin : schema.root.Everywhere Node.IsBuiltin)
    (hstatic : schema.root.Everywhere Node.IsStatic) {document : Json}
    (hdocument : document.WellFormed) (hobject : document.isObject = true) :
    Run.Accord (Violation.Moved name) (fun out other => other = .object [(name, out)])
      (schema.validate document) ((schema.under name).validate (.object [(name, document)])) := by
  have hbase : name ≠ "" := (isPlainName_of_isPathName hname).1
  have hroot := conformRoot_moved schema.options.partialInput hbuiltin hstatic
    (resolve_hasPathNames hschema) hbase hobject
  have hbelow : Run.Accord (Violation.Moved name) (fun out other => other = .object [(name, out)])
      (conformRoot schema.options.partialInput schema.members document)
      (conformRoot schema.options.partialInput [(name, schema.root)]
        (.object [(name, document)])) := by
    rw [conformRoot_single, ← bind_pure (conformRoot _ _ document)]
    refine Run.Accord.bind hroot ?_
    rintro result _ rfl
    exact Run.Accord.pure rfl
  rw [schema.validate_eq hschema hdocument,
    (schema.under name).validate_eq hunder (wellFormed_single hdocument name)]
  refine Run.Accord.bind hbelow ?_
  rintro result _ rfl
  apply Run.Accord.pure
  cases hcoerce : schema.options.coerce with
  | true => simp [Schema.under, hcoerce]
  | false => simp [Schema.under, hcoerce]

/-- What a schema makes of an item in an array of its documents. -/
def Schema.validateItem (schema : Schema) (path : String) (item : Json) : Run Json := do
  let made ← conformItem schema.root
    (schema.root.conform schema.options.partialInput path (some item)) path item
  return if schema.options.coerce then made else item

/-- An item that is an object is checked like a whole document, but for the paths. -/
theorem Schema.validateItem_moved
    (hschema : (resolve options registry definition).result = .ok schema.members)
    (hbuiltin : schema.root.Everywhere Node.IsBuiltin)
    (hstatic : schema.root.Everywhere Node.IsStatic) {path : String} (hpath : path ≠ "")
    {item : Json} (hitem : item.WellFormed) (hobject : item.isObject = true) :
    Run.Accord (Violation.Moved path) Eq (schema.validate item)
      (schema.validateItem path item) := by
  have hroot := conformRoot_moved schema.options.partialInput hbuiltin hstatic
    (resolve_hasPathNames hschema) hpath hobject
  have hmade : schema.validateItem path item = (do
      let result ← schema.root.conform schema.options.partialInput path (some item)
      return if schema.options.coerce then result.getD item else item) := by
    simp [validateItem, conformItem, hobject]
  rw [schema.validate_eq hschema hitem, hmade]
  refine Run.Accord.bind hroot ?_
  rintro result _ rfl
  exact Run.Accord.pure rfl

/-- An array of documents is checked item by item. -/
theorem Schema.validate_listUnder
    (hlist : (resolve options registry (.object [(name, .array [definition])])).result =
      .ok (schema.listUnder name).members) {items : List Json}
    (hitems : (Json.array items).WellFormed) :
    (schema.listUnder name).validate (.object [(name, .array items)]) = (do
      let outs ← conformItems schema.validateItem name 0 items
      return .object [(name, .array outs)]) := by
  have hfinish := conformItems_finish schema.options.coerce (fun path item =>
    conformItem schema.root (schema.root.conform schema.options.partialInput path (some item)) path
      item) name 0 items
  rw [(schema.listUnder name).validate_eq hlist (wellFormed_single hitems name)]
  unfold validateItem
  rw [hfinish]
  by_cases hcoerce : schema.options.coerce = true
  · simp [listUnder, conformRoot_single, Node.conform, Json.isEmpty, hcoerce, memberOf]
  · simp [listUnder, conformRoot_single, Node.conform, Json.isEmpty, hcoerce]

/-- Several documents in an array below a name. -/
theorem Schema.validate_items
    (hschema : (resolve options registry definition).result = .ok schema.members)
    (hlist : (resolve options registry (.object [(name, .array [definition])])).result =
      .ok (schema.listUnder name).members)
    (hbuiltin : schema.root.Everywhere Node.IsBuiltin)
    (hstatic : schema.root.Everywhere Node.IsStatic) {items : List Json}
    (hitems : (Json.array items).WellFormed) (hobjects : ∀ item ∈ items, item.isObject = true) :
    (∃ outs, List.Forall₂ (fun item out => schema.validate item = pure out) items outs ∧
      (schema.listUnder name).validate (.object [(name, .array items)]) =
        pure (.object [(name, .array outs)])) ∨
    ∃ before item after v w, items = before ++ item :: after ∧
      (∀ passed ∈ before, ∃ out, schema.validate passed = pure out) ∧
      schema.validate item = throw v ∧
      (schema.listUnder name).validate (.object [(name, .array items)]) = throw w ∧
      v.Moved (Path.item name before.length) w := by
  have hparts : ∀ item ∈ items, ∀ position,
      Run.Accord (Violation.Moved (Path.item name position)) Eq (schema.validate item)
        (schema.validateItem (Path.item name position) item) := by
    intro item hitem position
    exact schema.validateItem_moved hschema hbuiltin hstatic (item_ne_empty name position)
      ((Json.everywhere_array.1 hitems).2 item hitem) (hobjects item hitem)
  rw [schema.validate_listUnder hlist hitems]
  rcases conformItems_ends hparts 0 with
    ⟨outs, houts, hends⟩ | ⟨before, item, after, v, w, hsplit, hbefore, hitem, hends, hmoved⟩
  · refine Or.inl ⟨outs, houts, ?_⟩
    rw [hends, pure_bind]
  · refine Or.inr ⟨before, item, after, v, w, hsplit, hbefore, hitem, ?_, ?_⟩
    · rw [hends]
      rfl
    · rw [Nat.zero_add] at hmoved
      exact hmoved

end

/-- A definition can be nested in others, as a member and as the item of an array: its documents
are accepted there as they are by themselves, with the same results, and are refused for the same
faults of the same values, whose paths then start with those of the documents. -/
theorem validate_under {schema : Schema} (hname : isPathName name = true)
    (hschema : (resolve options registry definition).result = .ok schema.members)
    (hbuiltin : schema.root.Everywhere Node.IsBuiltin)
    (hstatic : schema.root.Everywhere Node.IsStatic) :
    (resolve options registry (.object [(name, definition)])).result =
        .ok (schema.under name).members ∧
      (resolve options registry (.object [(name, .array [definition])])).result =
        .ok (schema.listUnder name).members ∧
      schema.Nests name := by
  have hstates : definition.States options registry schema.root := Definition.resolve_eq_ok.1 hschema
  have hunder := resolve_single hname hstates
  have hlist := resolve_single hname (Definition.states_array.2 ⟨_, _, rfl, rfl, hstates⟩)
  refine ⟨hunder, hlist, ?_, ?_⟩
  · intro document hdocument hobject
    rcases (schema.validate_member hname hschema hunder hbuiltin hstatic hdocument hobject).ends with
      ⟨out, _, rfl, hroot, hbelow⟩ | ⟨v, w, hmoved, hroot, hbelow⟩
    · exact Or.inl ⟨out, hroot, hbelow⟩
    · exact Or.inr ⟨v, w, hroot, hbelow, hmoved⟩
  · intro items hitems hobjects
    exact schema.validate_items hschema hlist hbuiltin hstatic hitems hobjects

end

/-- A label that is not one of the list. -/
def strangeLabel : Json := .object [("labels", .array [.string "ab", .string "c"])]

theorem validate_under_labels :
    isPathName "box" = true ∧
      (resolve {} .builtin labelsDefinition).result = .ok labelsMembers ∧
      (Node.object labelsMembers).Everywhere Node.IsBuiltin ∧
      (Node.object labelsMembers).Everywhere Node.IsStatic ∧
      (Schema.mk {} labelsMembers).Nests "box" ∧
      ∃ v w, (Schema.mk {} labelsMembers).validate strangeLabel = throw v ∧
        ((Schema.mk {} labelsMembers).listUnder "box").validate
          (.object [("box", .array [labelsDocument, strangeLabel])]) = throw w ∧
        v.path = "labels[1]" ∧ w.path = "box[1].labels[1]" := by
  have hname : isPathName "box" = true := by decide
  have hresolve : (resolve {} .builtin labelsDefinition).result = .ok labelsMembers := rfl
  have hbuiltin : (Node.object labelsMembers).Everywhere Node.IsBuiltin :=
    ⟨trivial, ⟨trivial, .string, rfl⟩, trivial⟩
  have hstatic : (Node.object labelsMembers).Everywhere Node.IsStatic :=
    ⟨trivial, ⟨trivial, fun default hdefault => absurd hdefault (Option.not_mem_none default)⟩,
      trivial⟩
  obtain ⟨-, -, hnests⟩ :=
    @validate_under {} .builtin labelsDefinition "box" ⟨{}, labelsMembers⟩ hname hresolve hbuiltin
      hstatic
  exact ⟨hname, hresolve, hbuiltin, hstatic, hnests, _, _, rfl, rfl, rfl, rfl⟩

end Conform
