import Conform.Proofs.Documents
import Conform.Proofs.Resolved

/-!
# What definitions state

Resolution carries a path along, which it shows only where it refuses a definition.  What it makes
of a definition that it accepts is the same wherever the definition stands.  This file defines:

* `Definition.States`: a definition states a tree;

and says for each form of a definition exactly when it states a tree, and which.
-/

namespace Conform

/-- A definition states a tree: it is resolved to it. -/
def Definition.States (options : Options) (registry : Registry) (definition : Definition)
    (node : Node) : Prop :=
  (resolveNode options registry "" definition).result = .ok node

variable {options : Options} {registry : Registry}

theorem Definition.states_iff {definition : Definition} {node : Node} :
    definition.States options registry node ↔
      (resolveNode options registry "" definition).result = .ok node := Iff.rfl

/-! ## Fields -/

/-- Constraints are read alike at all paths. -/
theorem resolveConstraints_eq_ok (path other : String) {dated : Bool}
    {constraints : List (String × Json)} {facets facets' : Facets} :
    (resolveConstraints dated path constraints facets).result = .ok facets' ↔
      (resolveConstraints dated other constraints facets).result = .ok facets' := by
  -- The facets read so far are carried from one constraint to the next.
  induction constraints generalizing facets with
  | nil => exact Iff.rfl
  | cons constraint rest ih =>
      rcases constraint with ⟨key, json⟩
      unfold resolveConstraints
      cases ConstraintKey.ofText? key with
      | none =>
          simp only [Noted.bind_eq_ok, ih]
          rfl
      | some facet =>
          simp only [Noted.bind_eq_ok, ih]
          simp only [Noted.ofExcept, mapError_eq_ok]

theorem resolveField_eq_ok (path other : String) {definition : FieldDefinition} {field : Field} :
    (resolveField options registry path definition).result = .ok field ↔
      (resolveField options registry other definition).result = .ok field := by
  simp only [resolveField_eq_ok_iff, resolveConstraints_eq_ok path other]

/-! ## Trees -/

/-- Members are resolved when all names can stand in a path and are new and when each definition
states a tree. -/
theorem resolveMembers_eq_ok_of {path : String} {definitions : List (String × Definition)}
    (hparts : ∀ member ∈ definitions, ∀ path node,
      (resolveNode options registry path member.2).result = .ok node ↔
        member.2.States options registry node)
    {taken : List String} {members : List (String × Node)} :
    (resolveMembers options registry path taken definitions).result = .ok members ↔
      Memberwise (Definition.States options registry) definitions members ∧
        (definitions.map (·.1)).Nodup ∧
        ∀ name ∈ definitions.map (·.1), isPathName name = true ∧ name ∉ taken := by
  induction definitions generalizing taken members with
  | nil =>
      constructor
      · intro h
        cases h
        exact ⟨.nil, List.nodup_nil, fun name hname => absurd hname List.not_mem_nil⟩
      · rintro ⟨⟨⟩, -, -⟩
        rfl
  | cons first rest ih =>
      rcases first with ⟨name, definition⟩
      have hfirst := hparts (name, definition) List.mem_cons_self (Path.child path name)
      have hrest := fun members => @ih
        (fun member hmember => hparts member (List.mem_cons_of_mem _ hmember)) (name :: taken)
        members
      simp only [resolveMembers, Noted.bind_eq_ok, Noted.lift_result, Noted.pure_result,
        demandName_eq_ok, hfirst, hrest, List.map_cons, List.nodup_cons, List.mem_cons,
        forall_eq_or_imp, not_or]
      constructor
      · rintro ⟨_, ⟨hname, hnew⟩, node, hnode, others, ⟨hothers, hnodup, hnames⟩, heq⟩
        cases heq
        refine ⟨.cons hnode hothers, ⟨?_, hnodup⟩, ⟨hname, hnew⟩, ?_⟩
        · -- A later member of this name would have been refused, for it is taken by then.
          intro hmem
          exact (hnames name hmem).2.1 rfl
        · intro other hother
          exact ⟨(hnames other hother).1, (hnames other hother).2.2⟩
      · rintro ⟨hall, ⟨hfresh, hnodup⟩, ⟨hname, hnew⟩, hnames⟩
        cases hall with
        | cons hnode hothers =>
            refine ⟨(), ⟨hname, hnew⟩, _, hnode, _, ⟨hothers, hnodup, ?_⟩, rfl⟩
            intro other hother
            refine ⟨(hnames other hother).1, ?_, (hnames other hother).2⟩
            rintro rfl
            exact hfresh hother

/-- A definition is resolved to the tree that it states, at whatever path. -/
theorem resolveNode_eq_ok {path : String} {definition : Definition} {node : Node} :
    (resolveNode options registry path definition).result = .ok node ↔
      definition.States options registry node := by
  induction definition using Definition.induct generalizing path node with
  | type ref => exact Iff.rfl
  | field definition =>
      rw [Definition.states_iff]
      simp only [resolveNode, Noted.bind_eq_ok, resolveField_eq_ok path ""]
  | object definitions ih =>
      have hmembers := fun path members => @resolveMembers_eq_ok_of options registry path definitions
        (fun member hmember path node => @ih member hmember path node) [] members
      rw [Definition.states_iff]
      simp only [resolveNode, Noted.bind_eq_ok, hmembers]
  | array items ih =>
      rw [Definition.states_iff]
      -- An array of any other number of items than one is refused at every path.
      rcases items with _ | ⟨item, _ | ⟨_, _⟩⟩
      · simp [resolveNode, Noted.ofExcept]
      · have hitem := fun path node => @ih item List.mem_cons_self path node
        simp only [resolveNode, Noted.bind_eq_ok, hitem]
      · simp [resolveNode, Noted.ofExcept]

theorem resolveMembers_eq_ok {path : String} {taken : List String}
    {definitions : List (String × Definition)} {members : List (String × Node)} :
    (resolveMembers options registry path taken definitions).result = .ok members ↔
      Memberwise (Definition.States options registry) definitions members ∧
        (definitions.map (·.1)).Nodup ∧
        ∀ name ∈ definitions.map (·.1), isPathName name = true ∧ name ∉ taken :=
  resolveMembers_eq_ok_of (fun _ _ _ _ => resolveNode_eq_ok)

namespace Definition

variable {node : Node}

/-- The members of an object state theirs, under names of their own that can stand in a path. -/
theorem states_object {definitions : List (String × Definition)} :
    (object definitions).States options registry node ↔
      ∃ members, node = .object members ∧ Memberwise (States options registry) definitions members ∧
        (definitions.map (·.1)).Nodup ∧
        ∀ name ∈ definitions.map (·.1), isPathName name = true := by
  rw [states_iff]
  simp only [resolveNode, Noted.bind_eq_ok, Noted.pure_result, resolveMembers_eq_ok,
    List.not_mem_nil, not_false_eq_true, and_true, Except.ok.injEq]
  constructor
  · rintro ⟨members, hmembers, rfl⟩
    exact ⟨members, rfl, hmembers⟩
  · rintro ⟨members, rfl, hmembers⟩
    exact ⟨members, hmembers, rfl⟩

/-- An array states one when it has one item, which states its own. -/
theorem states_array {items : List Definition} :
    (array items).States options registry node ↔
      ∃ item tree, items = [item] ∧ node = .array tree ∧ item.States options registry tree := by
  rw [states_iff]
  rcases items with _ | ⟨item, _ | ⟨_, _⟩⟩
  · simp [resolveNode, Noted.ofExcept]
  · simp only [resolveNode, Noted.bind_eq_ok, Noted.pure_result, resolveNode_eq_ok,
      Except.ok.injEq]
    constructor
    · rintro ⟨tree, htree, rfl⟩
      exact ⟨item, tree, rfl, rfl, htree⟩
    · rintro ⟨_, tree, ⟨⟩, rfl, htree⟩
      exact ⟨tree, htree, rfl⟩
  · simp [resolveNode, Noted.ofExcept]

/-- A root is resolved to the members of the object that it states. -/
theorem resolve_eq_ok {definition : Definition} {members : List (String × Node)} :
    (resolve options registry definition).result = .ok members ↔
      definition.States options registry (.object members) := by
  cases definition with
  | object definitions =>
      rw [states_iff]
      simp only [resolve, resolveNode, Noted.bind_eq_ok, Noted.pure_result, Except.ok.injEq,
        Node.object.injEq, exists_eq_right]
  | type _ | field _ => simp [resolve, states_iff, resolveNode, Noted.ofExcept, Noted.bind_eq_ok]
  | array items => simp [resolve, states_array, Noted.ofExcept]

end Definition

end Conform
