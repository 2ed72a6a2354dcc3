import Conform.Proofs.Conforming
import Conform.Proofs.Frames

/-!
# Members that are not declared

The objects of a document may have members that the tree does not declare.  They take no part in the
checks: an object keeps them as they are if none of its members is a field, and drops them
otherwise.  This file defines:

* `Node.at?`: the node at the end of some steps, whatever the document is;
* `Node.declaredPart`: a value without the members that are not declared;
* `DeclaredOf`: members with their declared part;
* `KeepsAt`: what becomes of a member that is not declared;

and proves that a tree makes of the declared part of a value the declared part of what it makes of
the value (`Node.conform_declaredPart`), and which of the other members a result has
(`Node.conform_keepsAt`).  The main statement is `validate_undeclared`.
-/

namespace Conform

namespace Node

/-- The node at the end of some steps; all items of an array are at the same node. -/
def at? : Node → List Segment → Option Node
  | node, [] => some node
  | node, .key name :: rest => (node.members?.bind (Json.lookup name)).bind (·.at? rest)
  | node, .index _ :: rest => node.item?.bind (·.at? rest)

mutual

/-- A value without the members that a tree does not declare; what a tree has no part for stays as
it is. -/
def declaredPart : Node → Json → Json
  | object members, .object given => .object (declaredMembers members given)
  | array item, .array items => .array (items.map fun element => item.declaredPart element)
  | _, value => value

/-- The declared members that are given, in order of declaration. -/
def declaredMembers : List (String × Node) → List (String × Json) → List (String × Json)
  | [], _ => []
  | (name, node) :: rest, given =>
    memberOf name ((Json.lookup name given).map fun value => node.declaredPart value) ++
      declaredMembers rest given

end

/-! ## Declared parts -/

theorem declaredMembers_nil (members : List (String × Node)) : declaredMembers members [] = [] := by
  induction members with
  | nil => rfl
  | cons member rest ih => exact ih

theorem keys_declaredMembers (members : List (String × Node)) (given : List (String × Json)) :
    (declaredMembers members given).map (·.1) ⊆ members.map (·.1) := by
  induction members with
  | nil => exact List.nil_subset _
  | cons first rest ih =>
      rcases first with ⟨name, node⟩
      exact keys_memberOf_append ih name _

/-- Only what is given under declared names matters. -/
theorem declaredMembers_congr {members : List (String × Node)} {given other : List (String × Json)}
    (h : ∀ name ∈ members.map (·.1), Json.lookup name given = Json.lookup name other) :
    declaredMembers members given = declaredMembers members other := by
  induction members with
  | nil => rfl
  | cons first rest ih =>
      rcases first with ⟨name, node⟩
      have hfirst := h name List.mem_cons_self
      have hrest := ih fun name hname => h name (List.mem_cons_of_mem _ hname)
      simp only [declaredMembers, hfirst, hrest]

theorem lookup_declaredMembers {members : List (String × Node)} {name : String} {node : Node}
    (hnames : (members.map (·.1)).Nodup) (hmember : (name, node) ∈ members)
    (given : List (String × Json)) :
    Json.lookup name (declaredMembers members given) =
      (Json.lookup name given).map node.declaredPart := by
  induction members with
  | nil => exact absurd hmember List.not_mem_nil
  | cons first rest ih =>
      rcases first with ⟨other, otherNode⟩
      have hnodup := List.nodup_cons.1 hnames
      rcases List.mem_cons.1 hmember with heq | hrest
      · cases heq
        have hnew : name ∉ (declaredMembers rest given).map (·.1) :=
          fun hmem => hnodup.1 (keys_declaredMembers rest given hmem)
        exact lookup_memberOf_append hnew
      · have hne : other ≠ name := by
          rintro rfl
          exact hnodup.1 (List.mem_map.2 ⟨_, hrest, rfl⟩)
        calc
          Json.lookup name (declaredMembers ((other, otherNode) :: rest) given)
              = Json.lookup name (declaredMembers rest given) :=
                lookup_memberOf_append_of_ne hne _ _
          _ = (Json.lookup name given).map node.declaredPart := ih hnodup.2 hrest

theorem isObject_declaredPart (node : Node) (value : Json) :
    (node.declaredPart value).isObject = value.isObject := by
  cases node <;> cases value <;> rfl

/-- Of what is no object, a tree of an object declares everything. -/
theorem declaredPart_of_not_isObject {node : Node} (hnode : node.isObject = true) {value : Json}
    (hvalue : value.isObject = false) : node.declaredPart value = value := by
  cases node with
  | object members =>
      cases value with
      | object given => cases hvalue
      | null | bool _ | number _ | string _ | array _ => rfl
  | field _ | array _ => cases hnode

end Node

/-! ## What trees make of declared parts -/

/-- The second members are the declared part of the first ones, all of which are declared. -/
structure DeclaredOf (members : List (String × Node)) (made part : List (String × Json)) :
    Prop where
  keys : part.map (·.1) = made.map (·.1)
  named : made.map (·.1) ⊆ members.map (·.1)
  part : Node.declaredMembers members made = part

namespace DeclaredOf

variable {members : List (String × Node)} {made part : List (String × Json)}

theorem nil : DeclaredOf [] [] [] :=
  ⟨rfl, List.nil_subset _, rfl⟩

theorem cons {name : String} {node : Node} (h : DeclaredOf members made part)
    (hnew : name ∉ members.map (·.1)) (result : Option Json) :
    DeclaredOf ((name, node) :: members) (memberOf name result ++ made)
      (memberOf name (result.map node.declaredPart) ++ part) := by
  have hunmade : name ∉ made.map (·.1) := fun hmem => hnew (h.named hmem)
  refine ⟨?_, keys_memberOf_append h.named name result, ?_⟩
  · cases result with
    | none => exact h.keys
    | some value => exact congrArg (name :: ·) h.keys
  · have hrest : Node.declaredMembers members (memberOf name result ++ made) = part := by
      rw [← h.part]
      refine Node.declaredMembers_congr fun other hother => ?_
      have hne : name ≠ other := by
        rintro rfl
        exact hnew hother
      exact lookup_memberOf_append_of_ne hne result made
    simp only [Node.declaredMembers, lookup_memberOf_append hunmade, hrest]

/-- A given object keeps only members that are not declared besides what its members make. -/
theorem map_conformedObject (h : DeclaredOf members made part)
    (given : Option (List (String × Json))) :
    (conformedObject members made given).map (Node.object members).declaredPart =
      conformedObject members part (given.map (Node.declaredMembers members)) := by
  cases given with
  | some given =>
      have hmade : Node.declaredMembers members (keptMembers members given ++ made) = part := by
        rw [← h.part]
        refine Node.declaredMembers_congr fun name hname => ?_
        rw [Json.lookup_append, lookup_keptMembers hname, Option.none_or]
      have hkept : keptMembers members (Node.declaredMembers members given) = [] := by
        have hnone : undeclared members (Node.declaredMembers members given) = [] :=
          undeclared_eq_nil (Node.keys_declaredMembers members given)
        simp [keptMembers, hnone]
      simp only [conformedObject, Option.map_some, Node.declaredPart, hmade, hkept,
        List.nil_append]
  | none =>
      cases made with
      | nil =>
          have hpart : part = [] := List.map_eq_nil_iff.1 h.keys
          subst hpart
          rfl
      | cons first rest =>
          cases part with
          | nil => cases h.keys
          | cons other others =>
              simp only [conformedObject, objectOf?, Option.map_some, Option.map_none,
                Node.declaredPart, h.part]

end DeclaredOf

/-- Members make of declared parts the declared parts of what they make. -/
theorem conformMembers_declaredOf {tolerant : Bool} {members : List (String × Node)}
    (hnames : (members.map (·.1)).Nodup) {path : String}
    {given other : Option (List (String × Json))}
    (hgiven : ∀ member ∈ members, other.bind (Json.lookup member.1) =
      (given.bind (Json.lookup member.1)).map member.2.declaredPart)
    (hparts : ∀ member ∈ members, ∀ path value,
      Run.Related (fun result part => result.map member.2.declaredPart = part)
        (member.2.conform tolerant path value)
        (member.2.conform tolerant path (value.map member.2.declaredPart))) :
    Run.Related (DeclaredOf members) (conformMembers tolerant members path given)
      (conformMembers tolerant members path other) := by
  induction members with
  | nil => exact Run.Related.pure .nil
  | cons member rest ih =>
      rcases member with ⟨name, node⟩
      have hnodup := List.nodup_cons.1 hnames
      have hfirst := hparts (name, node) List.mem_cons_self (Path.child path name)
        (given.bind (Json.lookup name))
      rw [← hgiven (name, node) List.mem_cons_self] at hfirst
      have hrest := ih hnodup.2
        (fun member hmember => hgiven member (List.mem_cons_of_mem _ hmember))
        (fun member hmember => hparts member (List.mem_cons_of_mem _ hmember))
      refine Run.Related.bind hfirst ?_
      rintro result _ rfl
      refine Run.Related.bind hrest ?_
      intro made part hpart
      exact Run.Related.pure (hpart.cons hnodup.1 result)

/-- Items make of declared parts the declared parts of what they make. -/
theorem conformItems_map {conform : String → Json → Run Json} {part : Json → Json} {path : String}
    {items : List Json}
    (hparts : ∀ element ∈ items, ∀ path,
      Run.Related (fun result made => part result = made) (conform path element)
        (conform path (part element)))
    (position : Nat) :
    Run.Related (fun results made => results.map part = made)
      (conformItems conform path position items)
      (conformItems conform path position (items.map part)) := by
  induction items generalizing position with
  | nil => exact Run.Related.pure rfl
  | cons element rest ih =>
      have hrest := ih (fun other hother => hparts other (List.mem_cons_of_mem _ hother))
        (position + 1)
      refine Run.Related.bind (hparts element List.mem_cons_self (Path.item path position)) ?_
      rintro first _ rfl
      refine Run.Related.bind hrest ?_
      rintro others _ rfl
      exact Run.Related.pure rfl

theorem conformItem_declaredPart {tolerant : Bool} {node : Node} {path : String} {element : Json}
    (h : Run.Related (fun result part => result.map node.declaredPart = part)
      (node.conform tolerant path (some element))
      (node.conform tolerant path (some (node.declaredPart element)))) :
    Run.Related (fun result part => node.declaredPart result = part)
      (conformItem node (node.conform tolerant path (some element)) path element)
      (conformItem node (node.conform tolerant path (some (node.declaredPart element))) path
        (node.declaredPart element)) := by
  unfold conformItem
  rw [node.isObject_declaredPart element]
  split
  · next hshape =>
      obtain ⟨hobject, hother⟩ := Bool.and_eq_true_iff.1 hshape
      have hsame : node.declaredPart element = element :=
        Node.declaredPart_of_not_isObject hobject (by simpa using hother)
      rw [hsame]
      split
      · exact Run.Related.pure hsame
      · exact Run.Related.throw _
  · refine Run.Related.bind h ?_
    rintro result _ rfl
    exact Run.Related.pure (Option.getD_map node.declaredPart element result).symm

/-- A tree makes of the declared part of a value the declared part of what it makes of the value,
and stops at the same violation. -/
theorem Node.conform_declaredPart (tolerant : Bool) {node : Node}
    (hnode : node.Everywhere HasPathNames) (path : String) (value : Option Json) :
    Run.Related (fun result part => result.map node.declaredPart = part)
      (node.conform tolerant path value)
      (node.conform tolerant path (value.map node.declaredPart)) := by
  -- The induction is on the tree, whatever the value is.
  induction node using Node.induct generalizing path value with
  | field f =>
      have hsame : ∀ value : Option Json, value.map (Node.field f).declaredPart = value := by
        intro value
        cases value <;> rfl
      rw [hsame value]
      simp only [hsame]
      exact Run.Related.refl _
  | object members ih =>
      obtain ⟨⟨hnames, -⟩, hforms⟩ := Node.everywhere_object.1 hnode
      have hgiven : (value.map (Node.object members).declaredPart).bind Json.members? =
          (value.bind Json.members?).map (declaredMembers members) := by
        rcases value with _ | value
        · rfl
        · cases value <;> rfl
      simp only [Node.conform, hgiven]
      refine Run.Related.bind (conformMembers_declaredOf hnames ?_
        (fun member hmember => ih member hmember (hforms member hmember))) ?_
      · intro member hmember
        cases value.bind Json.members? with
        | none => rfl
        | some given => exact lookup_declaredMembers hnames hmember given
      · intro made part hpart
        exact Run.Related.pure (hpart.map_conformedObject _)
  | array item ih =>
      rcases value with _ | value
      · exact Run.Related.pure rfl
      · cases value with
        | array items =>
            simp only [Node.conform, Option.map_some, Node.declaredPart, Json.isEmpty]
            refine Run.Related.bind (conformItems_map (fun element _ path => ?_) 0) ?_
            · exact conformItem_declaredPart (ih hnode.2 path (some element))
            · rintro made _ rfl
              exact Run.Related.pure rfl
        | null => exact Run.Related.pure rfl
        | string s =>
            simp only [Node.conform, Option.map_some, Node.declaredPart]
            split
            · exact Run.Related.pure rfl
            · exact Run.Related.throw _
        | bool _ | number _ | object _ => exact Run.Related.throw _

/-! ## What becomes of the other members -/

/-- What members make are members of theirs, and each of them makes what its own node makes. -/
theorem conformMembers_ensures {tolerant : Bool} {members : List (String × Node)}
    (hnames : (members.map (·.1)).Nodup) {path : String}
    {given : Option (List (String × Json))} {p : String × Node → Option Json → Prop}
    (hparts : ∀ member ∈ members, ∀ path, Run.Ensures (p member)
      (member.2.conform tolerant path (given.bind (Json.lookup member.1)))) :
    Run.Ensures (fun made => made.map (·.1) ⊆ members.map (·.1) ∧
        ∀ member ∈ members, p member (Json.lookup member.1 made))
      (conformMembers tolerant members path given) := by
  induction members with
  | nil =>
      refine Run.Ensures.pure ⟨List.nil_subset _, ?_⟩
      exact fun _ hmember => absurd hmember List.not_mem_nil
  | cons member rest ih =>
      rcases member with ⟨name, node⟩
      have hnodup := List.nodup_cons.1 hnames
      have hfirst := hparts (name, node) List.mem_cons_self (Path.child path name)
      have hrest := ih hnodup.2 fun other hother => hparts other (List.mem_cons_of_mem _ hother)
      refine Run.Ensures.bind_of hfirst fun result hresult => ?_
      refine Run.Ensures.bind_of hrest fun made hmade => Run.Ensures.pure ⟨?_, ?_⟩
      · exact keys_memberOf_append hmade.1 name result
      · intro member hmember
        rcases List.mem_cons.1 hmember with rfl | hother
        · have hnew : name ∉ made.map (·.1) := fun hmem => hnodup.1 (hmade.1 hmem)
          have hfound : Json.lookup name (memberOf name result ++ made) = result :=
            lookup_memberOf_append hnew
          rw [hfound]
          exact hresult
        · have hne : name ≠ member.1 := by
            rintro rfl
            exact hnodup.1 (List.mem_map.2 ⟨member, hother, rfl⟩)
          have hfound : Json.lookup member.1 (memberOf name result ++ made) =
              Json.lookup member.1 made := lookup_memberOf_append_of_ne hne result made
          rw [hfound]
          exact hmade.2 member hother

/-- Each item makes what its own check makes, in its place. -/
theorem conformItems_ensures {conform : String → Json → Run Json} {path : String}
    {items : List Json} {p : Json → Json → Prop}
    (hparts : ∀ element ∈ items, ∀ path, Run.Ensures (p element) (conform path element))
    (position : Nat) :
    Run.Ensures (List.Forall₂ p items) (conformItems conform path position items) := by
  induction items generalizing position with
  | nil => exact Run.Ensures.pure .nil
  | cons element rest ih =>
      have hrest := ih (fun other hother => hparts other (List.mem_cons_of_mem _ hother))
        (position + 1)
      have hfirst := hparts element List.mem_cons_self (Path.item path position)
      refine Run.Ensures.bind_of hfirst fun result hresult => ?_
      exact Run.Ensures.bind_of hrest fun made hmade => Run.Ensures.pure (.cons hresult hmade)

section

variable {members : List (String × Node)} {made : List (String × Json)}

/-- A declared member of a result is the one that was made. -/
theorem lookup_conformedObject_of_mem {name : String} (hname : name ∈ members.map (·.1))
    (given : Option (List (String × Json))) :
    ((conformedObject members made given).bind Json.members?).bind (Json.lookup name) =
      Json.lookup name made := by
  cases given with
  | some given =>
      have hkept := lookup_keptMembers hname given
      calc
        Json.lookup name (keptMembers members given ++ made)
            = (Json.lookup name (keptMembers members given)).or (Json.lookup name made) :=
              Json.lookup_append _ _
        _ = Json.lookup name made := by rw [hkept, Option.none_or]
  | none => cases made <;> rfl

/-- Any other member of a result is the one that was given, if the object keeps it. -/
theorem lookup_conformedObject_of_not_mem (hmade : made.map (·.1) ⊆ members.map (·.1))
    {key : String} (hkey : key ∉ members.map (·.1)) (given : Option (List (String × Json))) :
    ((conformedObject members made given).bind Json.members?).bind (Json.lookup key) =
      if isPassthrough members then given.bind (Json.lookup key) else none := by
  have hnew : Json.lookup key made = none :=
    Json.lookup_eq_none_iff.2 fun hmem => hkey (hmade hmem)
  cases given with
  | none =>
      have hnone : ((objectOf? made).bind Json.members?).bind (Json.lookup key) = none := by
        cases made with
        | nil => rfl
        | cons first rest => exact hnew
      rw [Option.bind_none, ite_self]
      exact hnone
  | some given =>
      have hpasses : (!members.any (·.1 == key)) = true := by
        simp only [Bool.not_eq_true', List.any_eq_false, beq_iff_eq]
        rintro member hmember rfl
        exact hkey (List.mem_map.2 ⟨member, hmember, rfl⟩)
      have hkept : Json.lookup key (keptMembers members given) =
          if isPassthrough members then Json.lookup key given else none := by
        unfold keptMembers
        split
        · exact @Json.lookup_filter _ (fun key => !members.any (·.1 == key)) key hpasses given
        · rfl
      calc
        Json.lookup key (keptMembers members given ++ made)
            = (Json.lookup key (keptMembers members given)).or (Json.lookup key made) :=
              Json.lookup_append _ _
        _ = if isPassthrough members then Json.lookup key given else none := by
              rw [hnew, Option.or_none, hkept]

end

theorem bind_at?_key (value : Option Json) (name : String) (rest : List Segment) :
    value.bind (·.at? (.key name :: rest)) =
      ((value.bind Json.members?).bind (Json.lookup name)).bind (·.at? rest) := by
  cases value <;> rfl

theorem rel_getElem? {α β : Type} {R : α → β → Prop} {first : List α} {second : List β}
    (h : List.Forall₂ R first second) (position : Nat) :
    Option.Rel R first[position]? second[position]? := by
  induction h generalizing position with
  | nil => exact .none
  | cons hab _ ih =>
      cases position with
      | zero => exact .some hab
      | succ position => exact ih position

/-- Where an object should be and is not, there is no way to a member. -/
theorem Node.at?_member_eq_none {node : Node} (hnode : node.isObject = true)
    {steps : List Segment} {target : Node} (hat : node.at? steps = some target) {value : Json}
    (hvalue : value.isObject = false) (key : String) : value.at? (steps ++ [.key key]) = none := by
  have hnone : value.members? = none := by simpa [Json.isObject] using hvalue
  have hkey : ∀ name, value.step? (.key name) = none := by
    intro name
    rw [Json.step?, Json.get?, hnone]
    rfl
  cases steps with
  | nil =>
      rw [List.nil_append, Json.at?, hkey]
      rfl
  | cons step rest =>
      cases step with
      | key name =>
          rw [List.cons_append, Json.at?, hkey]
          rfl
      | index position =>
          cases node with
          | object members => cases hat
          | field _ | array _ => cases hnode

/-- What stands at the end of some steps stays if an object with these members keeps those that it
does not declare, and goes otherwise. -/
def KeepsAt (members : List (String × Node)) (steps : List Segment) (value result : Option Json) :
    Prop :=
  result.bind (·.at? steps) = if isPassthrough members then value.bind (·.at? steps) else none

section

variable {tolerant : Bool} {node : Node} {steps : List Segment} {members : List (String × Node)}
  {key : String}

theorem KeepsAt.of_none {value result : Option Json} (hvalue : value.bind (·.at? steps) = none)
    (hresult : result.bind (·.at? steps) = none) : KeepsAt members steps value result := by
  unfold KeepsAt
  rw [hvalue, hresult, ite_self]

/-- What holds of what the tree of an item makes holds of what the item makes. -/
theorem conformItem_keepsAt (hat : node.at? steps = some (.object members)) {path : String}
    {element : Json}
    (h : Run.Ensures (KeepsAt members (steps ++ [.key key]) (some element))
      (node.conform tolerant path (some element))) :
    Run.Ensures (fun result => KeepsAt members (steps ++ [.key key]) (some element) (some result))
      (conformItem node (node.conform tolerant path (some element)) path element) := by
  unfold conformItem
  split
  · next hshape =>
      obtain ⟨hobject, hother⟩ := Bool.and_eq_true_iff.1 hshape
      have hnone := Node.at?_member_eq_none hobject hat (by simpa using hother) key
      split
      · exact Run.Ensures.pure (.of_none hnone hnone)
      · exact Run.Ensures.throw _
  · next hshape =>
      have hkind : node.isObject = true → element.isObject = true := by
        intro hnode
        simpa [hnode] using hshape
      refine Run.Ensures.bind_of (h.and (Node.conform_ensures_some tolerant hkind path)) ?_
      rintro result ⟨hresult, hsome⟩
      obtain ⟨value, rfl⟩ := Option.isSome_iff_exists.1 hsome
      exact Run.Ensures.pure hresult

/-- An object keeps the members that it does not declare. -/
theorem conformObject_keepsAt_nil (hnames : (members.map (·.1)).Nodup)
    (hkey : key ∉ members.map (·.1)) (path : String) (value : Option Json) :
    Run.Ensures (KeepsAt members [.key key] value)
      ((Node.object members).conform tolerant path value) := by
  refine Run.Ensures.bind_of (conformMembers_ensures hnames (p := fun _ _ => True)
    (fun _ _ _ _ _ _ _ => trivial)) fun made hmade => Run.Ensures.pure ?_
  have hkept := lookup_conformedObject_of_not_mem hmade.1 hkey (value.bind Json.members?)
  unfold KeepsAt
  rw [bind_at?_key, bind_at?_key, hkept]
  split <;> simp [Json.at?]

/-- What holds of what the tree of a member makes holds of what the object makes, a step further
up. -/
theorem conformObject_keepsAt_cons {declared : List (String × Node)}
    (hnames : (declared.map (·.1)).Nodup) {member : String × Node} (hmember : member ∈ declared)
    (h : ∀ path value, Run.Ensures (KeepsAt members steps value)
      (member.2.conform tolerant path value)) (path : String) (value : Option Json) :
    Run.Ensures (KeepsAt members (.key member.1 :: steps) value)
      ((Node.object declared).conform tolerant path value) := by
  have hname : member.1 ∈ declared.map (·.1) := List.mem_map.2 ⟨member, hmember, rfl⟩
  refine Run.Ensures.bind_of (conformMembers_ensures hnames
    (p := fun other result => other = member → KeepsAt members steps
      ((value.bind Json.members?).bind (Json.lookup other.1)) result) ?_) ?_
  · rintro other - path draws result drawn hend rfl
    exact h path _ draws result drawn hend
  · intro made hmade
    have hkept := hmade.2 member hmember rfl
    refine Run.Ensures.pure ?_
    unfold KeepsAt
    rw [bind_at?_key, bind_at?_key, lookup_conformedObject_of_mem hname]
    exact hkept

/-- What holds of what the tree of the items makes holds of what the array makes, a step further
up. -/
theorem conformArray_keepsAt (hat : node.at? steps = some (.object members))
    (h : ∀ path value, Run.Ensures (KeepsAt members (steps ++ [.key key]) value)
      (node.conform tolerant path value)) (position : Nat) (path : String)
    (value : Option Json) :
    Run.Ensures (KeepsAt members (.index position :: (steps ++ [.key key])) value)
      ((Node.array node).conform tolerant path value) := by
  rcases value with _ | value
  · exact Run.Ensures.pure (.of_none rfl rfl)
  · cases value with
    | array items =>
        refine Run.Ensures.bind_of (conformItems_ensures
          (p := fun element result =>
            KeepsAt members (steps ++ [.key key]) (some element) (some result))
          (fun element _ path => conformItem_keepsAt hat (h path (some element))) 0) ?_
        intro made hmade
        refine Run.Ensures.pure ?_
        -- The step leads to the item and to what it makes, or past both.
        have hplace := rel_getElem? hmade position
        change KeepsAt members (steps ++ [.key key]) items[position]? made[position]?
        generalize items[position]? = element at hplace
        generalize made[position]? = result at hplace
        cases hplace with
        | none => exact .of_none rfl rfl
        | some hkept => exact hkept
    | null => exact Run.Ensures.pure (.of_none rfl rfl)
    | string s =>
        unfold Node.conform
        split
        · exact Run.Ensures.pure (.of_none rfl rfl)
        · exact Run.Ensures.throw _
    | bool _ | number _ | object _ => exact Run.Ensures.throw _

/-- Of the members that a tree does not declare, what it makes of a value has those of the value,
and just where its objects keep them. -/
theorem Node.conform_keepsAt (tolerant : Bool) (hnode : node.Everywhere HasPathNames)
    (hat : node.at? steps = some (.object members)) (hkey : key ∉ members.map (·.1))
    (path : String) (value : Option Json) :
    Run.Ensures (KeepsAt members (steps ++ [.key key]) value)
      (node.conform tolerant path value) := by
  -- The induction is on the tree, which the steps descend.
  induction node using Node.induct generalizing steps path value with
  | field f =>
      cases steps with
      | nil => cases hat
      | cons step rest => cases step <;> cases hat
  | object declared ih =>
      obtain ⟨⟨hnames, -⟩, hforms⟩ := Node.everywhere_object.1 hnode
      cases steps with
      | nil =>
          cases hat
          exact conformObject_keepsAt_nil hnames hkey path value
      | cons step rest =>
          cases step with
          | index position => cases hat
          | key name =>
              obtain ⟨child, hchild, hrest⟩ := Option.bind_eq_some_iff.1 hat
              have hmember : (name, child) ∈ declared := Json.lookup_mem hchild
              exact conformObject_keepsAt_cons hnames hmember
                (ih _ hmember (hforms _ hmember) hrest) path value
  | array item ih =>
      cases steps with
      | nil => cases hat
      | cons step rest =>
          cases step with
          | key name => cases hat
          | index position =>
              have hrest : item.at? rest = some (.object members) := hat
              exact conformArray_keepsAt hrest (ih hnode.2 hrest) position path value

end

/-! ## Whole documents -/

/-- A root makes what its object makes, or else an empty object. -/
theorem conformRoot_eq_conform (tolerant : Bool) (members : List (String × Node))
    (document : Json) :
    conformRoot tolerant members document = (do
      let result ← (Node.object members).conform tolerant "" (some document)
      return result.getD (.object [])) := by
  simp only [conformRoot, Node.conform, Option.bind_some, bind_assoc, pure_bind]
  congr 1
  funext made
  cases document.members? with
  | some given => rfl
  | none =>
      have hkept : keptMembers members [] = [] := by simp [keptMembers, undeclared]
      cases made <;> simp [conformedObject, objectOf?, hkept]

theorem conformRoot_declaredPart (tolerant : Bool) {members : List (String × Node)}
    (hmembers : (Node.object members).Everywhere Node.HasPathNames) (document : Json) :
    Run.Related (fun result part => (Node.object members).declaredPart result = part)
      (conformRoot tolerant members document)
      (conformRoot tolerant members ((Node.object members).declaredPart document)) := by
  rw [conformRoot_eq_conform, conformRoot_eq_conform]
  refine Run.Related.bind (Node.conform_declaredPart tolerant hmembers "" (some document)) ?_
  rintro result _ rfl
  refine Run.Related.pure ?_
  have hempty : (Node.object members).declaredPart (.object []) = .object [] :=
    congrArg Json.object (Node.declaredMembers_nil members)
  cases result with
  | none => exact hempty
  | some result => rfl

theorem conformRoot_keepsAt (tolerant : Bool) {members : List (String × Node)}
    (hmembers : (Node.object members).Everywhere Node.HasPathNames)
    {steps : List Segment} {declared : List (String × Node)}
    (hat : (Node.object members).at? steps = some (.object declared)) {key : String}
    (hkey : key ∉ declared.map (·.1)) (document : Json) :
    Run.Ensures
      (fun result => KeepsAt declared (steps ++ [.key key]) (some document) (some result))
      (conformRoot tolerant members document) := by
  rw [conformRoot_eq_conform]
  refine Run.Ensures.bind_of
    (Node.conform_keepsAt tolerant hmembers hat hkey "" (some document)) ?_
  intro result hresult
  refine Run.Ensures.pure ?_
  cases result with
  | some result => exact hresult
  | none =>
      -- The empty object has no member either.
      have hempty : (some (Json.object [])).bind (·.at? (steps ++ [.key key])) = none := by
        cases steps with
        | nil => rfl
        | cons step rest => cases step <;> rfl
      exact hempty.trans hresult

/-- Members that are not declared do not interfere.  Two documents that differ in nothing else stop
at the same violation, or both end with a result, and the results differ in nothing else.  A result
has those of its document, unchanged, wherever an object keeps them, and none anywhere else. -/
theorem validate_undeclared {options : Options} {registry : Registry} {definition : Definition}
    {schema : Schema} {document other : Json}
    (hschema : (resolve options registry definition).result = .ok schema.members)
    (hcoerce : schema.options.coerce = true) (hdocument : document.WellFormed)
    (hother : other.WellFormed)
    (hdeclared : schema.root.declaredPart document = schema.root.declaredPart other)
    (draws : Draws) :
    (∃ violation drawn, (schema.validate document).outcome draws = (.error violation, drawn) ∧
        (schema.validate other).outcome draws = (.error violation, drawn)) ∨
      ∃ result otherResult drawn,
        (schema.validate document).outcome draws = (.ok result, drawn) ∧
        (schema.validate other).outcome draws = (.ok otherResult, drawn) ∧
        schema.root.declaredPart result = schema.root.declaredPart otherResult ∧
        ∀ steps members key, schema.root.at? steps = some (.object members) →
          key ∉ members.map (·.1) →
            (result.at? (steps ++ [.key key]) =
              if isPassthrough members then document.at? (steps ++ [.key key]) else none) ∧
            (otherResult.at? (steps ++ [.key key]) =
              if isPassthrough members then other.at? (steps ++ [.key key]) else none) := by
  have hnames := resolve_hasPathNames hschema
  have hconform : ∀ value : Json, value.WellFormed → schema.validate value =
      conformRoot schema.options.partialInput schema.members value := by
    intro value hvalue
    rw [Schema.validate_eq hschema hvalue]
    simp [hcoerce]
  rw [hconform document hdocument, hconform other hother]
  -- Both documents fare as the part that they share does.
  have hshared : Run.Related
      (fun result otherResult =>
        schema.root.declaredPart result = schema.root.declaredPart otherResult)
      (conformRoot schema.options.partialInput schema.members document)
      (conformRoot schema.options.partialInput schema.members other) := by
    have hfirst := conformRoot_declaredPart schema.options.partialInput hnames document
    have hsecond := conformRoot_declaredPart schema.options.partialInput hnames other
    have hsame : (Node.object schema.members).declaredPart document =
        (Node.object schema.members).declaredPart other := hdeclared
    rw [← hsame] at hsecond
    refine (hfirst.corner hsecond).mono ?_
    rintro result otherResult ⟨part, hpart, hother⟩
    exact hpart.trans hother.symm
  rcases hshared.outcomes draws with ⟨result, otherResult, drawn, hsame, hresult, hend⟩ |
      ⟨violation, drawn, hstop, hend⟩
  · refine Or.inr ⟨result, otherResult, drawn, hresult, hend, hsame, ?_⟩
    intro steps members key hat hkey
    have hkept := conformRoot_keepsAt schema.options.partialInput hnames hat hkey
    exact ⟨hkept document draws result drawn hresult, hkept other draws otherResult drawn hend⟩
  · exact Or.inl ⟨violation, drawn, hstop, hend⟩

/-- The document `nestedInput` with keys besides that look like paths of its own. -/
def hostileInput : Json :=
  .object [("tags[0].id", .string "no"), ("name", .string "n"), ("", .bool true),
    ("tags", .array [.object [("__proto__", .object [("id", .null)]), ("id", .bool true)], .null,
      .object [("id.", .null)]]),
    ("extra", .object [("inner.flag", .bool false), ("__proto__", .array [.null])])]

theorem validate_undeclared_hostileInput :
    (resolve {} .builtin nestedDefinition).result = .ok nestedMembers ∧ nestedInput.WellFormed ∧
      hostileInput.WellFormed ∧
      (Node.object nestedMembers).declaredPart nestedInput =
        (Node.object nestedMembers).declaredPart hostileInput ∧
      ∀ draws, ∃ result otherResult drawn,
        ((Schema.mk {} nestedMembers).validate nestedInput).outcome draws = (.ok result, drawn) ∧
        ((Schema.mk {} nestedMembers).validate hostileInput).outcome draws =
          (.ok otherResult, drawn) ∧
        (Node.object nestedMembers).declaredPart result =
          (Node.object nestedMembers).declaredPart otherResult ∧
        otherResult.at? [.key "extra", .key "inner.flag"] = some (.bool false) ∧
        otherResult.at? [.key "tags[0].id"] = none ∧
        otherResult.at? [.key "tags", .index 0, .key "__proto__"] = none := by
  have hresolve : (resolve {} .builtin nestedDefinition).result = .ok nestedMembers := rfl
  have hform : nestedInput.WellFormed := by
    simp [nestedInput, Json.WellFormed, Json.Everywhere, Json.EverywhereItems,
      Json.EverywhereMembers, Json.IsTidy]
  have hhostile : hostileInput.WellFormed := by
    simp [hostileInput, Json.WellFormed, Json.Everywhere, Json.EverywhereItems,
      Json.EverywhereMembers, Json.IsTidy]
  have hsame : (Node.object nestedMembers).declaredPart nestedInput =
      (Node.object nestedMembers).declaredPart hostileInput := rfl
  refine ⟨hresolve, hform, hhostile, hsame, fun draws => ?_⟩
  have hrun : ∃ result, ((Schema.mk {} nestedMembers).validate nestedInput).outcome draws =
      (.ok result, draws) := by
    rw [@Schema.validate_eq {} .builtin nestedDefinition ⟨{}, nestedMembers⟩ hresolve _ hform]
    exact ⟨_, rfl⟩
  obtain ⟨made, hmade⟩ := hrun
  rcases @validate_undeclared {} .builtin nestedDefinition ⟨{}, nestedMembers⟩ nestedInput
    hostileInput hresolve rfl hform hhostile hsame draws with
    ⟨violation, drawn, hstop, -⟩ | ⟨result, otherResult, drawn, hresult, hother, hagree, hkept⟩
  · rw [hmade] at hstop
    cases hstop
  · refine ⟨result, otherResult, drawn, hresult, hother, hagree, ?_, ?_, ?_⟩
    · exact (hkept [.key "extra"] _ "inner.flag" rfl (by decide)).2
    · exact (hkept [] _ "tags[0].id" rfl (by decide)).2
    · exact (hkept [.key "tags", .index 0] _ "__proto__" rfl (by decide)).2

end Conform
