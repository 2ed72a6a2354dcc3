import Conform.Proofs.Documents
import Conform.Proofs.Visits

/-!
# Places of a tree in a document

A tree has a place wherever one of its nodes meets a document: at declared members, whether or not
the document has them, and at the items that the arrays of the document really have.  This file
defines:

* `Task.StandsAt`: a task as a node gives it for what stands at the node;
* `Node.place?`: the node at the end of some steps, with the value that stands there, if any;

and proves that the value is the one that the steps lead to in the document, that the steps to a
place can be written as a path, that whatever is visited has a place, and that the fields among the
places are just the fields that are visited.
-/

namespace Conform

/-- A task is what a node asks for of the value, if any, that stands at it. -/
inductive Task.StandsAt : Task → Node → Option Json → Prop
  | field (f : Field) (reached : Option Json) : StandsAt (.field f reached) (.field f) reached
  | object (kept : List (String × Json)) (members : List (String × Node)) (reached : Option Json) :
      StandsAt (.object kept) (.object members) reached
  | array (item : Node) (value : Json) : StandsAt (.array value) (.array item) (some value)
  | item (members : List (String × Node)) (value : Json) :
      StandsAt (.item value) (.object members) (some value)

namespace Node

/-- The node at the end of some steps into a document, with the value that stands there. -/
def place? : Node → Option Json → List Segment → Option (Node × Option Json)
  | node, value, [] => some (node, value)
  | object members, value, .key name :: rest =>
    (Json.lookup name members).bind fun node => node.place? (value.bind (·.get? name)) rest
  | array item, value, .index position :: rest =>
    (value.bind (·.step? (.index position))).bind fun element =>
      -- An item that should be an object and is not has no places below it.
      if item.isObject && !element.isObject && !rest.isEmpty then none
      else item.place? (some element) rest
  | _, _, _ :: _ => none

variable {node target : Node} {value reached : Option Json}

theorem place?_nil (node : Node) (value : Option Json) :
    node.place? value [] = some (node, value) := by
  cases node <;> rfl

/-- A place below a member is a place of the member. -/
theorem place?_key_eq_some {name : String} {rest : List Segment}
    (h : node.place? value (.key name :: rest) = some (target, reached)) :
    ∃ members child, node = object members ∧ Json.lookup name members = some child ∧
      child.place? (value.bind (·.get? name)) rest = some (target, reached) := by
  cases node with
  | object members =>
      rcases Option.bind_eq_some_iff.1 h with ⟨child, hchild, hrest⟩
      exact ⟨members, child, rfl, hchild, hrest⟩
  | field _ | array _ => cases h

/-- A place below an item is a place of the item, which is there. -/
theorem place?_index_eq_some {position : Nat} {rest : List Segment}
    (h : node.place? value (.index position :: rest) = some (target, reached)) :
    ∃ item items element, node = array item ∧ value = some (.array items) ∧
      items[position]? = some element ∧
      (item.isObject = true → element.isObject = true ∨ rest = []) ∧
      item.place? (some element) rest = some (target, reached) := by
  cases node with
  | array item =>
      rcases Option.bind_eq_some_iff.1 h with ⟨element, helement, hrest⟩
      rcases Option.bind_eq_some_iff.1 helement with ⟨v, rfl, hstep⟩
      rcases Option.bind_eq_some_iff.1 hstep with ⟨items, hitems, hposition⟩
      have hv : v = .array items := by
        cases v with
        | array _ =>
            cases hitems
            rfl
        | null | bool _ | number _ | string _ | object _ => cases hitems
      subst hv
      split at hrest
      · cases hrest
      · next hshape =>
          refine ⟨item, items, element, rfl, rfl, hposition, ?_, hrest⟩
          intro hitem
          simp only [hitem, Bool.true_and, Bool.and_eq_true, Bool.not_eq_true', not_and,
            Bool.not_eq_false, List.isEmpty_iff] at hshape
          cases helement : element.isObject with
          | true => exact Or.inl rfl
          | false => exact Or.inr (hshape helement)
  | field _ | object _ => cases h

/-- The value at a place is the one that the steps lead to. -/
theorem eq_at?_of_place? {steps : List Segment}
    (h : node.place? value steps = some (target, reached)) :
    reached = value.bind (·.at? steps) := by
  induction steps generalizing node value with
  | nil =>
      rw [place?_nil] at h
      cases h
      cases reached <;> rfl
  | cons step rest ih =>
      cases step with
      | key name =>
          rcases place?_key_eq_some h with ⟨members, child, -, -, hrest⟩
          have hreached := ih hrest
          rw [Option.bind_assoc] at hreached
          exact hreached
      | index position =>
          rcases place?_index_eq_some h with ⟨item, items, element, -, rfl, helement, -, hrest⟩
          have hreached := ih hrest
          simpa [Json.at?, Json.step?, Json.items?, helement] using hreached

/-- What lies below a place lies below its node. -/
theorem place?_of_append {first second : List Segment}
    (h : node.place? value (first ++ second) = some (target, reached)) :
    ∃ between at', node.place? value first = some (between, at') ∧
      between.place? at' second = some (target, reached) := by
  induction first generalizing node value with
  | nil => exact ⟨node, value, place?_nil node value, h⟩
  | cons step rest ih =>
      cases step with
      | key name =>
          rcases place?_key_eq_some h with ⟨members, child, rfl, hchild, hrest⟩
          rcases ih hrest with ⟨between, at', hfirst, hsecond⟩
          refine ⟨between, at', ?_, hsecond⟩
          simpa [place?, hchild] using hfirst
      | index position =>
          rcases place?_index_eq_some h with
            ⟨item, items, element, rfl, rfl, helement, hshape, hrest⟩
          rcases ih hrest with ⟨between, at', hfirst, hsecond⟩
          refine ⟨between, at', ?_, hsecond⟩
          have hguard : (item.isObject && !element.isObject && !rest.isEmpty) = false := by
            cases hitem : item.isObject with
            | false => rfl
            | true =>
                rcases hshape hitem with hobject | hnil
                · simp [hobject]
                · simp [(List.append_eq_nil_iff.1 hnil).1]
          simp only [place?, Option.bind_some, Json.step?, Json.items?, helement, hguard]
          exact hfirst

/-- The steps to a place can be written as a path. -/
theorem isPlain_of_place? (hnode : node.Everywhere HasPathNames)
    (hvalue : ∀ v ∈ value, Json.WellFormed v) {steps : List Segment}
    (h : node.place? value steps = some (target, reached)) : ∀ step ∈ steps, step.IsPlain := by
  induction steps generalizing node value with
  | nil => exact fun step hstep => absurd hstep List.not_mem_nil
  | cons first rest ih =>
      intro step hstep
      cases first with
      | key name =>
          rcases place?_key_eq_some h with ⟨members, child, rfl, hchild, hrest⟩
          rcases everywhere_object.1 hnode with ⟨⟨-, hnames⟩, hforms⟩
          have hmember : (name, child) ∈ members := Json.lookup_mem hchild
          rcases List.mem_cons.1 hstep with rfl | hmem
          · exact isPlainName_of_isPathName (hnames _ hmember)
          · refine ih (hforms _ hmember) ?_ hrest step hmem
            intro v hv
            rcases Option.bind_eq_some_iff.1 hv with ⟨document, hdocument, hget⟩
            rcases Option.bind_eq_some_iff.1 hget with ⟨given, hgiven, hlookup⟩
            have hform := Json.wellFormed_of_members? (hvalue document hdocument) hgiven
            exact hform.2 _ (Json.lookup_mem hlookup)
      | index position =>
          rcases place?_index_eq_some h with ⟨item, items, element, rfl, rfl, helement, -, hrest⟩
          rcases Json.everywhere_array.1 (hvalue _ rfl) with ⟨hlength, hitems⟩
          have hposition : position < items.length := (List.getElem?_eq_some_iff.1 helement).1
          rcases List.mem_cons.1 hstep with rfl | hmem
          · exact Nat.lt_of_lt_of_le hposition hlength
          · refine ih hnode.2 ?_ hrest step hmem
            rintro v ⟨⟩
            exact hitems element (List.mem_of_getElem? helement)

/-- A field at a place is visited there. -/
theorem mem_visits_of_place? {steps : List Segment} {f : Field}
    (h : node.place? value steps = some (field f, reached)) (base : List Segment) :
    ⟨base ++ steps, .field f reached⟩ ∈ node.visits base value := by
  induction steps generalizing node value base with
  | nil =>
      rw [place?_nil] at h
      cases h
      rw [List.append_nil]
      exact List.mem_singleton_self _
  | cons step rest ih =>
      cases step with
      | key name =>
          rcases place?_key_eq_some h with ⟨members, child, rfl, hchild, hrest⟩
          have hbelow := ih hrest (base ++ [.key name])
          rw [List.append_assoc, List.singleton_append] at hbelow
          have hgiven : value.bind (·.get? name) = (value.bind Json.members?).bind (Json.lookup name) :=
            (Option.bind_assoc _ _ _).symm
          rw [hgiven] at hbelow
          exact List.mem_append_right _
            (mem_memberVisits.2 ⟨(name, child), Json.lookup_mem hchild, hbelow⟩)
      | index position =>
          rcases place?_index_eq_some h with
            ⟨item, items, element, rfl, rfl, helement, hshape, hrest⟩
          have hbelow := ih hrest (base ++ [.index position])
          rw [List.append_assoc, List.singleton_append] at hbelow
          refine List.mem_cons_of_mem _ (mem_itemVisits.2 ⟨position, element, helement, ?_⟩)
          rw [Nat.zero_add]
          unfold elementVisits
          split
          · next hitem =>
              rcases hshape hitem with hobject | rfl
              · rw [if_pos hobject]
                exact List.mem_cons_of_mem _ hbelow
              · -- The item itself is an object in the tree and no field.
                rw [place?_nil] at hrest
                cases hrest
                cases hitem
          · exact hbelow

/-- An item that should be an object is visited itself, and below it nothing is unless it is one. -/
theorem mem_elementVisits_cases {below : List Visit} {steps : List Segment} {element : Json}
    {visit : Visit} (h : visit ∈ elementVisits node below steps element) :
    (visit = ⟨steps, .item element⟩ ∧ node.isObject = true) ∨
      (visit ∈ below ∧ (node.isObject && !element.isObject) = false) := by
  unfold elementVisits at h
  cases hnode : node.isObject with
  | false =>
      rw [hnode] at h
      exact Or.inr ⟨h, rfl⟩
  | true =>
      simp only [hnode, if_true] at h
      rcases List.mem_cons.1 h with hitem | hbelow
      · exact Or.inl ⟨hitem, rfl⟩
      · cases helement : element.isObject with
        | true =>
            rw [helement] at hbelow
            exact Or.inr ⟨hbelow, rfl⟩
        | false =>
            rw [helement] at hbelow
            exact absurd hbelow List.not_mem_nil

/-- What is visited has a place where it is visited, and is what the node there asks for. -/
theorem place?_of_mem_visits (hnames : node.Everywhere HasPathNames) {base : List Segment}
    {visit : Visit} (h : visit ∈ node.visits base value) :
    ∃ steps target reached, visit.steps = base ++ steps ∧
      node.place? value steps = some (target, reached) ∧ visit.task.StandsAt target reached := by
  induction node using Node.induct generalizing base value with
  | field f =>
      have hvisit := List.mem_singleton.1 h
      subst hvisit
      exact ⟨[], _, _, (List.append_nil base).symm, place?_nil _ _, .field f value⟩
  | object members ih =>
      rcases everywhere_object.1 hnames with ⟨⟨hnodup, -⟩, hforms⟩
      rcases List.mem_append.1 h with hobject | hmembers
      · rcases mem_objectVisit hobject with ⟨kept, rfl⟩
        exact ⟨[], _, _, (List.append_nil base).symm, place?_nil _ _, .object kept members value⟩
      · rcases mem_memberVisits.1 hmembers with ⟨⟨name, child⟩, hmember, hbelow⟩
        rcases ih _ hmember (hforms _ hmember) hbelow with
          ⟨steps, target, reached, hplace, hreached, htask⟩
        have hchild : Json.lookup name members = some child := Json.lookup_of_mem hnodup hmember
        refine ⟨.key name :: steps, target, reached, ?_, ?_, htask⟩
        · simpa using hplace
        · rw [Option.bind_assoc] at hreached
          simp only [place?, hchild, Option.bind_some]
          exact hreached
  | array item ih =>
      cases value with
      | none => exact absurd h List.not_mem_nil
      | some value =>
          rcases List.mem_cons.1 h with rfl | hitems
          · exact ⟨[], _, _, (List.append_nil base).symm, place?_nil _ _, .array item value⟩
          · rcases mem_itemVisits.1 hitems with ⟨position, element, helement, hvisit⟩
            have hstep : value.step? (.index position) = some element := by
              cases value with
              | array items => exact helement
              | _ => simp [Json.items?] at helement
            rcases mem_elementVisits_cases hvisit with ⟨rfl, hobject⟩ | ⟨hbelow, hshape⟩
            · obtain ⟨members, rfl⟩ : ∃ members, item = object members := by
                cases item with
                | object members => exact ⟨members, rfl⟩
                | field _ | array _ => cases hobject
              refine ⟨[.index position], _, _, ?_, ?_, .item members element⟩
              · rw [Nat.zero_add]
              · simp only [place?, Option.bind_some, hstep, List.isEmpty_nil, Bool.not_true,
                  Bool.and_false]
                rfl
            · rcases ih hnames.2 hbelow with ⟨steps, target, reached, hplace, hreached, htask⟩
              refine ⟨.index position :: steps, target, reached, ?_, ?_, htask⟩
              · simpa using hplace
              · simp only [place?, Option.bind_some, hstep, hshape, Bool.false_and]
                exact hreached

end Node

/-- A field at a place of a whole document is visited in it. -/
theorem mem_rootVisits_of_place? {members : List (String × Node)} {document : Json}
    {steps : List Segment} {f : Field} {reached : Option Json}
    (h : (Node.object members).place? (some document) steps = some (.field f, reached)) :
    ⟨steps, .field f reached⟩ ∈ rootVisits members document := by
  rcases List.mem_append.1 (Node.mem_visits_of_place? h []) with hobject | hmembers
  · rcases mem_objectVisit hobject with ⟨kept, hkept⟩
    exact Task.noConfusion (Visit.mk.inj hkept).2
  · exact List.mem_append_right _ hmembers

/-- The visits of a whole document are visits of its tree. -/
theorem mem_visits_of_mem_rootVisits {members : List (String × Node)} {document : Json}
    {visit : Visit} (h : visit ∈ rootVisits members document) :
    visit ∈ (Node.object members).visits [] (some document) := by
  rcases List.mem_append.1 h with hroot | hmembers
  · split at hroot
    · exact List.mem_append_left _ hroot
    · exact absurd hroot List.not_mem_nil
  · exact List.mem_append_right _ hmembers

/-- What is visited in a whole document has a place there, and is what the node there asks for. -/
theorem exists_place?_of_mem_rootVisits {members : List (String × Node)} {document : Json}
    (hnames : (Node.object members).Everywhere Node.HasPathNames) {visit : Visit}
    (h : visit ∈ rootVisits members document) :
    ∃ target reached, (Node.object members).place? (some document) visit.steps =
      some (target, reached) ∧ visit.task.StandsAt target reached := by
  rcases Node.place?_of_mem_visits hnames (mem_visits_of_mem_rootVisits h) with
    ⟨steps, target, reached, hsteps, hplace, htask⟩
  refine ⟨target, reached, ?_, htask⟩
  rw [hsteps]
  exact hplace

/-- A field that is visited in a whole document has a place there. -/
theorem place?_of_mem_rootVisits {members : List (String × Node)} {document : Json}
    (hnames : (Node.object members).Everywhere Node.HasPathNames) {steps : List Segment}
    {f : Field} {reached : Option Json}
    (h : ⟨steps, .field f reached⟩ ∈ rootVisits members document) :
    (Node.object members).place? (some document) steps = some (.field f, reached) := by
  rcases exists_place?_of_mem_rootVisits hnames h with ⟨target, value, hplace, htask⟩
  cases htask
  exact hplace

/-- The path of a visit is read back as the steps to its place. -/
theorem tokenize_path_of_mem_rootVisits {members : List (String × Node)} {document : Json}
    (hnames : (Node.object members).Everywhere Node.HasPathNames) (hdocument : document.WellFormed)
    {visit : Visit} (h : visit ∈ rootVisits members document) :
    tokenize visit.path = visit.steps := by
  obtain ⟨target, reached, hplace, -⟩ := exists_place?_of_mem_rootVisits hnames h
  have hform : ∀ v ∈ some document, Json.WellFormed v := by
    rintro _ ⟨⟩
    exact hdocument
  have hplain : ∀ step ∈ visit.steps, step.IsPlain := Node.isPlain_of_place? hnames hform hplace
  exact tokenize_render hplain

end Conform
