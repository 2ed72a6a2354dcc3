import Conform.Proofs.Accord
import Conform.Proofs.FixedPoints
import Conform.Proofs.Reordering
import Conform.Proofs.Stated

/-!
# The order of members

Members are declared in some order and given in some order, and checks run in the order of
declaration.  Which violation is met first depends on it, and so does the order of what is written,
but neither what is accepted nor what is made of it.  This file defines:

* `Definition.Reordered`, `Node.Reordered`: definitions and trees that differ in the order of members
  at most, at any depth;
* `Field.IsOrderBlind`: a field that cannot tell such documents apart.

The main statement is `validate_reordered`.
-/

namespace Conform

/-! ## Definitions and trees in another order -/

/-- Definitions that differ in the order of members at most. -/
inductive Definition.Reordered : Definition → Definition → Prop
  | type (ref : TypeRef) : Reordered (.type ref) (.type ref)
  | field (field : FieldDefinition) : Reordered (.field field) (.field field)
  | object {members moved others : List (String × Definition)}
      (h : Memberwise Reordered members moved) (hperm : moved.Perm others) :
      Reordered (.object members) (.object others)
  | array {items others : List Definition} (h : List.Forall₂ Reordered items others) :
      Reordered (.array items) (.array others)

/-- Trees that differ in the order of members at most. -/
inductive Node.Reordered : Node → Node → Prop
  | field (field : Field) : Reordered (.field field) (.field field)
  | object {members moved others : List (String × Node)}
      (h : Memberwise Reordered members moved) (hperm : moved.Perm others) :
      Reordered (.object members) (.object others)
  | array {item other : Node} (h : Reordered item other) : Reordered (.array item) (.array other)

theorem Node.Reordered.refl (node : Node) : node.Reordered node := by
  induction node using Node.induct with
  | field f => exact field f
  | object members ih => exact object (.refl ih) (.refl members)
  | array item ih => exact array ih

namespace Definition

theorem Reordered.refl (definition : Definition) : definition.Reordered definition := by
  induction definition using Definition.induct with
  | type ref => exact type ref
  | field f => exact field f
  | object definitions ih => exact object (.refl ih) (.refl definitions)
  | array items ih => exact array (List.forall₂_same.2 ih)

theorem Reordered.symm {definition other : Definition} (h : definition.Reordered other) :
    other.Reordered definition := by
  induction definition using Definition.induct generalizing other with
  | type ref =>
      cases h
      exact type ref
  | field f =>
      cases h
      exact field f
  | object definitions ih =>
      cases h with
      | object h hperm =>
          have hback : Memberwise Reordered _ definitions :=
            (h.mono fun member hmember _ => ih member hmember).flip
          obtain ⟨moved, hmoved, hperm⟩ := hback.exists_perm hperm.symm
          exact object hmoved hperm
  | array items ih =>
      cases h with
      | array h =>
          exact array (forall₂_imp_of_mem h fun item hitem _ => ih item hitem).flip

variable {options : Options} {registry : Registry}

/-- What a definition states, it states in the order in which its members are listed. -/
theorem Reordered.exists_states {definition other : Definition} {node : Node}
    (h : definition.Reordered other) (hstates : definition.States options registry node) :
    ∃ tree, other.States options registry tree ∧ node.Reordered tree := by
  induction definition using Definition.induct generalizing other node with
  | type _ | field _ =>
      cases h
      exact ⟨node, hstates, .refl node⟩
  | object definitions ih =>
      cases h with
      | @object _ moved others h hperm =>
          obtain ⟨members, rfl, hmembers, hnodup, hnames⟩ := states_object.1 hstates
          obtain ⟨trees, htrees, hreordered⟩ := h.exists_corner hmembers
            fun member hmember _ _ => ih member hmember
          obtain ⟨trees', htrees', hperm'⟩ := htrees.exists_perm hperm.symm
          have hkeys : (definitions.map (·.1)).Perm (others.map (·.1)) := by
            rw [h.keys_eq]
            exact hperm.map _
          refine ⟨.object trees', states_object.2 ⟨trees', rfl, htrees', ?_, ?_⟩, ?_⟩
          · exact hkeys.nodup_iff.1 hnodup
          · exact fun name hname => hnames name (hkeys.mem_iff.2 hname)
          · exact .object hreordered hperm'.symm
  | array items ih =>
      cases h with
      | array h =>
          obtain ⟨item, tree, rfl, rfl, htree⟩ := states_array.1 hstates
          cases h with
          | cons hitem hnil =>
              cases hnil
              obtain ⟨tree', htree', hreordered⟩ := ih item List.mem_cons_self hitem htree
              exact ⟨.array tree', states_array.2 ⟨_, _, rfl, rfl, htree'⟩, .array hreordered⟩

/-- Two roots are resolved or refused together, to trees that differ as they do. -/
theorem Reordered.exists_resolve {definition other : Definition} {members : List (String × Node)}
    (h : definition.Reordered other)
    (hresolve : (resolve options registry definition).result = .ok members) :
    ∃ others, (resolve options registry other).result = .ok others ∧
      (Node.object members).Reordered (.object others) := by
  obtain ⟨tree, htree, hreordered⟩ := h.exists_states (resolve_eq_ok.1 hresolve)
  cases tree with
  | object others => exact ⟨others, resolve_eq_ok.2 htree, hreordered⟩
  | field _ | array _ => cases hreordered

end Definition

/-! ## Fields -/

/-- A field of a built-in kind whose default never changes and whose check cannot tell apart
documents that are equal. -/
structure Field.IsOrderBlind (field : Field) : Prop where
  kind : ∃ kind, field.type = .builtin kind
  default : ∀ default ∈ field.facets.default,
    ∃ value : Json, default = .fixed value ∧ value.WellFormed
  check : ∀ clause ∈ field.facets.check, ∀ a b : Json, a.WellFormed → b.WellFormed →
    a.same b = true → clause.value a = clause.value b

/-- A node that cannot tell apart documents in other orders, as far as it is a field. -/
def Node.IsOrderBlind : Node → Prop
  | field f => f.IsOrderBlind
  | object _ | array _ => True

section

variable {a b : Json}

theorem isAllowed_congr (h : a.Reordered b) (values : List Json) :
    isAllowed values a = isAllowed values b := by
  unfold isAllowed
  refine congrArg values.any (funext fun allowed => ?_)
  -- Only scalars are compared in another way than documents are, and those are the same here.
  cases h with
  | null | bool _ | number _ | string _ => rfl
  | array hlength h => cases allowed <;> exact Json.Reordered.same_congr _ (.array hlength h)
  | object hkeys h hperm =>
      cases allowed <;> exact Json.Reordered.same_congr _ (.object hkeys h hperm)

theorem accepts_congr (h : a.Reordered b) (pattern : Pattern) :
    pattern.accepts a = pattern.accepts b := by
  cases h <;> rfl

theorem Json.Reordered.isEmpty_eq (h : a.Reordered b) : a.isEmpty = b.isEmpty := by
  cases h <;> rfl

theorem Json.Reordered.isObject_eq (h : a.Reordered b) : a.isObject = b.isObject := by
  cases h <;> rfl

theorem Kind.isEmptyValue_congr (h : a.Reordered b) (kind : Kind) :
    kind.isEmptyValue a = kind.isEmptyValue b := by
  cases h <;> cases kind <;> rfl

theorem Facets.demand_endsAlike {α : Type} {facets : Facets} {fault : Fault}
    {clause : Option (Clause α)} {holds holds' : α → Bool} {fallback : α → String} {path : String}
    (h : ∀ c ∈ clause, holds c.value = holds' c.value) :
    EndsAlike (fun _ _ => True) (fun _ _ => True)
      (facets.demand fault clause holds fallback path a)
      (facets.demand fault clause holds' fallback path b) := by
  cases clause with
  | none => exact EndsAlike.ok trivial
  | some c =>
      simp only [demand, h c rfl]
      split
      · exact EndsAlike.ok trivial
      · exact EndsAlike.error trivial

/-- The facets of every type hold of both values or of neither. -/
theorem Field.checkValue_reordered {field : Field} (hblind : field.IsOrderBlind)
    (h : a.Reordered b) (path : String) :
    EndsAlike (fun _ _ => True) (fun _ _ => True) (field.facets.checkValue a path)
      (field.facets.checkValue b path) := by
  refine EndsAlike.bind (Facets.demand_endsAlike fun c _ => isAllowed_congr h c.value) ?_
  refine fun _ _ _ => EndsAlike.bind (Facets.demand_endsAlike fun c _ => accepts_congr h c.value) ?_
  refine fun _ _ _ => Facets.demand_endsAlike fun c hc => ?_
  exact hblind.check c hc a b h.wellFormed.1 h.wellFormed.2 h.same

/-- Scalars are read as they are, and containers are taken or refused whatever they hold. -/
theorem Kind.readValue_reordered (h : a.Reordered b) (kind : Kind) (facets : Facets)
    (path : String) :
    EndsAlike (fun _ _ => True) Json.Reordered (kind.readValue facets a path)
      (kind.readValue facets b path) := by
  have hform := h.wellFormed.1
  cases h with
  | null | bool _ | number _ | string _ =>
      exact EndsAlike.refl (fun _ => trivial) fun output houtput =>
        Json.Reordered.refl (wellFormed_of_readValue hform houtput)
  | array hlength h =>
      cases kind with
      | array => exact EndsAlike.ok (.array hlength h)
      | _ => exact EndsAlike.error trivial
  | object hkeys h hperm =>
      cases kind with
      | object => exact EndsAlike.ok (.object hkeys h hperm)
      | _ => exact EndsAlike.error trivial

theorem Kind.rule_reordered (h : a.Reordered b) (kind : Kind) (info : TypeInfo) (facets : Facets)
    (path : String) :
    EndsAlike (fun _ _ => True) Json.Reordered (kind.rule info facets a path)
      (kind.rule info facets b path) := by
  simp only [rule, isEmptyValue_congr h]
  split
  · split
    · exact EndsAlike.error trivial
    · exact EndsAlike.ok h
  · exact readValue_reordered h kind facets path

theorem Field.checkPresent_reordered {field : Field} (hblind : field.IsOrderBlind)
    (h : a.Reordered b) (path : String) :
    EndsAlike (fun _ _ => True) Json.Reordered (field.checkPresent path a)
      (field.checkPresent path b) := by
  obtain ⟨kind, hkind⟩ := hblind.kind
  simp only [checkPresent, isEmptyValue_of_builtin hkind, applyRule_of_builtin hkind,
    Kind.isEmptyValue_congr h]
  split
  · exact EndsAlike.error trivial
  · refine EndsAlike.bind (Kind.rule_reordered h kind _ _ path) fun output output' houtput => ?_
    rw [Kind.isEmptyValue_congr houtput]
    split
    · exact EndsAlike.bind (checkValue_reordered hblind houtput path)
        fun _ _ _ => EndsAlike.ok houtput
    · exact EndsAlike.ok houtput

/-- What a field makes of a value in two orders. -/
theorem Field.conform_reordered {field : Field} (hblind : field.IsOrderBlind) (tolerant : Bool)
    (path : String) {value value' : Option Json} (h : Option.Rel Json.Reordered value value') :
    Run.Accord (fun _ _ => True) (Option.Rel Json.Reordered) (field.conform tolerant path value)
      (field.conform tolerant path value') := by
  cases h with
  | some hvalue =>
      refine Run.Accord.bind (Run.Accord.lift (checkPresent_reordered hblind hvalue path)) ?_
      exact fun output output' houtput => Run.Accord.pure (.some houtput)
  | none =>
      refine conform_none_accord trivial .none (fun default hdefault => ?_) tolerant
      obtain ⟨value, heq, hvalue⟩ := hblind.default default hdefault
      exact ⟨value, heq, .some (.refl hvalue)⟩

end

/-! ## Members -/

section

variable {tolerant : Bool} {path : String}

theorem memberwise_memberOf {result result' : Option Json}
    (h : Option.Rel Json.Reordered result result') (name : String) :
    Memberwise Json.Reordered (memberOf name result) (memberOf name result') := by
  cases h with
  | none => exact .nil
  | some hvalue => exact .cons hvalue .nil

/-- Members side by side make values side by side. -/
theorem conformMembers_memberwise {members moved : List (String × Node)}
    {given given' : Option (List (String × Json))} (h : Memberwise Node.Reordered members moved)
    (hparts : ∀ member ∈ members, ∀ node, member.2.Reordered node →
      Run.Accord (fun _ _ => True) (Option.Rel Json.Reordered)
        (member.2.conform tolerant (Path.child path member.1) (given.bind (Json.lookup member.1)))
        (node.conform tolerant (Path.child path member.1) (given'.bind (Json.lookup member.1)))) :
    Run.Accord (fun _ _ => True)
      (fun made made' => Memberwise Json.Reordered made made' ∧
        (made.map (·.1)).Sublist (members.map (·.1)))
      (conformMembers tolerant members path given)
      (conformMembers tolerant moved path given') := by
  induction h with
  | nil => exact Run.Accord.pure ⟨.nil, .slnil⟩
  | @cons name node other rest others hnode hrest ih =>
      have hfirst := hparts (name, node) List.mem_cons_self other hnode
      have hothers := ih fun member hmember => hparts member (List.mem_cons_of_mem _ hmember)
      refine Run.Accord.bind hfirst fun result result' hresult => ?_
      refine Run.Accord.bind hothers fun made made' hmade => ?_
      refine Run.Accord.pure ⟨(memberwise_memberOf hresult name).append hmade.1, ?_⟩
      cases result with
      | none => exact hmade.2.cons name
      | some value => exact hmade.2.cons_cons name

theorem conformMembers_isStill {members : List (String × Node)}
    {given : Option (List (String × Json))}
    (hstill : ∀ member ∈ members, Run.IsStill
      (member.2.conform tolerant (Path.child path member.1) (given.bind (Json.lookup member.1)))) :
    Run.IsStill (conformMembers tolerant members path given) := by
  induction members with
  | nil => exact .pure []
  | cons member rest ih =>
      have hrest := ih fun other hother => hstill other (List.mem_cons_of_mem _ hother)
      exact (hstill member List.mem_cons_self).bind fun _ => hrest.bind fun _ => .pure _

/-- Members that draw nothing make the same values in any order. -/
theorem conformMembers_perm {moved others : List (String × Node)}
    {given : Option (List (String × Json))} (hperm : moved.Perm others)
    (hstill : ∀ member ∈ moved, Run.IsStill
      (member.2.conform tolerant (Path.child path member.1) (given.bind (Json.lookup member.1)))) :
    Run.Accord (fun _ _ => True) List.Perm (conformMembers tolerant moved path given)
      (conformMembers tolerant others path given) := by
  induction hperm with
  | nil => exact Run.Accord.pure (.refl [])
  | cons member _ ih =>
      have hrest := ih fun other hother => hstill other (List.mem_cons_of_mem _ hother)
      refine Run.Accord.bind (hstill member List.mem_cons_self).accord ?_
      rintro result _ rfl
      refine Run.Accord.bind hrest fun made made' hmade => ?_
      exact Run.Accord.pure (hmade.append_left _)
  | swap first second rest =>
      have hrest : Run.IsStill (conformMembers tolerant rest path given) :=
        conformMembers_isStill fun other hother =>
          hstill other (List.mem_cons_of_mem _ (List.mem_cons_of_mem _ hother))
      have hfirst := hstill first (List.mem_cons_of_mem _ List.mem_cons_self)
      have hsecond := hstill second List.mem_cons_self
      simp only [conformMembers, bind_assoc, pure_bind]
      refine hsecond.swap hfirst fun result result' => Run.Accord.bind hrest.accord ?_
      rintro made _ rfl
      apply Run.Accord.pure
      rw [← List.append_assoc, ← List.append_assoc]
      exact List.perm_append_comm.append_right made
  | trans hperm _ ih ih' =>
      refine (ih hstill).comp (ih' fun member hmember => hstill member (hperm.mem_iff.2 hmember)) ?_
      exact fun _ _ _ => List.Perm.trans

/-- Members in any order make the same values, in that order. -/
theorem conformMembers_reordered {members moved others : List (String × Node)}
    {given given' : Option (List (String × Json))} (h : Memberwise Node.Reordered members moved)
    (hperm : moved.Perm others)
    (hparts : ∀ member ∈ members, ∀ node, member.2.Reordered node →
      Run.Accord (fun _ _ => True) (Option.Rel Json.Reordered)
        (member.2.conform tolerant (Path.child path member.1) (given.bind (Json.lookup member.1)))
        (node.conform tolerant (Path.child path member.1) (given'.bind (Json.lookup member.1)))) :
    Run.Accord (fun _ _ => True)
      (fun made made' => Shuffled Json.Reordered made made' ∧
        (made.map (·.1)).Sublist (members.map (·.1)))
      (conformMembers tolerant members path given)
      (conformMembers tolerant others path given') := by
  have hstill : ∀ member ∈ moved, Run.IsStill (member.2.conform tolerant
      (Path.child path member.1) (given'.bind (Json.lookup member.1))) := by
    rintro ⟨name, node⟩ hmember
    obtain ⟨node', hmember', hnode⟩ := h.exists_of_mem hmember
    exact (hparts (name, node') hmember' node hnode).isStill_right
  refine (conformMembers_memberwise h hparts).comp (conformMembers_perm hperm hstill) ?_
  exact fun made between made' hmade hmoved => ⟨⟨between, hmade.1, hmoved⟩, hmade.2⟩

end

/-! ## Objects -/

theorem keptMembers_reordered {members others : List (String × Node)}
    (h : Shuffled Node.Reordered members others) {given given' : List (String × Json)}
    (hgiven : Shuffled Json.Reordered given given') :
    Shuffled Json.Reordered (keptMembers members given) (keptMembers others given') := by
  have hdeclared : ∀ key, members.any (·.1 == key) = others.any (·.1 == key) :=
    fun key => h.any_eq fun _ _ _ _ => rfl
  have hfields : isPassthrough members = isPassthrough others := by
    refine congrArg Bool.not (h.any_eq fun _ node node' hnode => ?_)
    cases hnode <;> rfl
  simp only [keptMembers, undeclared, hfields, hdeclared]
  split
  · exact hgiven.filter fun key => !others.any (·.1 == key)
  · exact ⟨[], .nil, .refl []⟩

/-- What is kept and what is made are an object in both orders. -/
theorem object_reordered {members others : List (String × Node)}
    (h : Shuffled Node.Reordered members others) (hnames : (members.map (·.1)).Nodup)
    {given given' : List (String × Json)} (hkeys : (given.map (·.1)).Nodup)
    (hgiven : Shuffled Json.Reordered given given') {made made' : List (String × Json)}
    (hmade : Shuffled Json.Reordered made made' ∧
      (made.map (·.1)).Sublist (members.map (·.1))) :
    (Json.object (keptMembers members given ++ made)).Reordered
      (.object (keptMembers others given' ++ made')) :=
  .of_shuffled (Node.nodup_keptMembers_append hkeys hnames hmade.2)
    ((keptMembers_reordered h hgiven).append hmade.1)

/-- The members of an object, in two orders. -/
def GivenReordered : Option (List (String × Json)) → Option (List (String × Json)) → Prop :=
  Option.Rel fun given given' => (given.map (·.1)).Nodup ∧ Shuffled Json.Reordered given given'

theorem givenReordered_members? {a b : Json} (h : a.Reordered b) :
    GivenReordered a.members? b.members? := by
  cases h with
  | null | bool _ | number _ | string _ | array _ _ => exact .none
  | object hkeys h hperm => exact .some ⟨hkeys, _, h, hperm⟩

theorem GivenReordered.lookup {given given' : Option (List (String × Json))}
    (h : GivenReordered given given') (name : String) :
    Option.Rel Json.Reordered (given.bind (Json.lookup name))
      (given'.bind (Json.lookup name)) := by
  cases h with
  | none => exact .none
  | some hgiven => exact hgiven.2.lookup hgiven.1 name

theorem conformedObject_reordered {members others : List (String × Node)}
    (h : Shuffled Node.Reordered members others) (hnames : (members.map (·.1)).Nodup)
    {given given' : Option (List (String × Json))} (hgiven : GivenReordered given given')
    {made made' : List (String × Json)}
    (hmade : Shuffled Json.Reordered made made' ∧
      (made.map (·.1)).Sublist (members.map (·.1))) :
    Option.Rel Json.Reordered (conformedObject members made given)
      (conformedObject others made' given') := by
  cases hgiven with
  | some hgiven => exact .some (object_reordered h hnames hgiven.1 hgiven.2 hmade)
  | none =>
      -- Both make nothing or both make something, for what they make is as long.
      have hlength := hmade.1.length_eq
      cases made with
      | nil =>
          cases made' with
          | nil => exact .none
          | cons _ _ => simp at hlength
      | cons first rest =>
          cases made' with
          | nil => simp at hlength
          | cons _ _ => exact .some (.of_shuffled (hnames.sublist hmade.2) hmade.1)

/-! ## Items -/

section

variable {node node' : Node} {tolerant : Bool} {path : String}

/-- What an item makes in both orders. -/
theorem conformItem_reordered (h : node.Reordered node') {item item' : Json}
    (hitem : item.Reordered item') {run run' : Run (Option Json)}
    (hrun : Run.Accord (fun _ _ => True) (Option.Rel Json.Reordered) run run') :
    Run.Accord (fun _ _ => True) Json.Reordered (conformItem node run path item)
      (conformItem node' run' path item') := by
  have hobject : node.isObject = node'.isObject := by cases h <;> rfl
  simp only [conformItem, hobject, hitem.isObject_eq, hitem.isEmpty_eq]
  split
  · split
    · exact Run.Accord.pure hitem
    · exact Run.Accord.throw trivial
  · refine Run.Accord.bind hrun fun result result' hresult => ?_
    cases hresult with
    | none => exact Run.Accord.pure hitem
    | some hvalue => exact Run.Accord.pure hvalue

theorem conformItems_reordered {conform conform' : String → Json → Run Json}
    {items items' : List Json} (h : List.Forall₂ Json.Reordered items items')
    (hparts : ∀ path item item', item.Reordered item' →
      Run.Accord (fun _ _ => True) Json.Reordered (conform path item) (conform' path item'))
    (position : Nat) :
    Run.Accord (fun _ _ => True)
      (fun made made' => List.Forall₂ Json.Reordered made made' ∧ made.length = items.length)
      (conformItems conform path position items) (conformItems conform' path position items') := by
  induction h generalizing position with
  | nil => exact Run.Accord.pure ⟨.nil, rfl⟩
  | cons hitem _ ih =>
      refine Run.Accord.bind (hparts _ _ _ hitem) fun first first' hfirst => ?_
      refine Run.Accord.bind (ih (position + 1)) fun made made' hmade => ?_
      exact Run.Accord.pure ⟨.cons hfirst hmade.1, by simp [hmade.2]⟩

/-! ## Trees and documents -/

/-- What a tree makes of a value in another order, by members in another order. -/
theorem Node.conform_reordered (tolerant : Bool) (hblind : node.Everywhere IsOrderBlind)
    (hnames : node.Everywhere HasPathNames) (h : node.Reordered node') (path : String)
    {value value' : Option Json} (hvalue : Option.Rel Json.Reordered value value') :
    Run.Accord (fun _ _ => True) (Option.Rel Json.Reordered) (node.conform tolerant path value)
      (node'.conform tolerant path value') := by
  -- The induction is on the first tree, which settles the form of the second.
  induction node using Node.induct generalizing node' path value value' with
  | field field =>
      cases h
      exact field.conform_reordered hblind tolerant path hvalue
  | object members ih =>
      cases h with
      | object hmembers hperm =>
          rcases everywhere_object.1 hblind with ⟨-, hblind⟩
          rcases everywhere_object.1 hnames with ⟨⟨hnodup, -⟩, hnames⟩
          have hgiven : GivenReordered (value.bind Json.members?) (value'.bind Json.members?) := by
            cases hvalue with
            | none => exact .none
            | some hvalue => exact givenReordered_members? hvalue
          refine Run.Accord.bind (conformMembers_reordered hmembers hperm ?_) ?_
          · intro member hmember other hother
            exact ih member hmember (hblind member hmember) (hnames member hmember) hother _
              (hgiven.lookup member.1)
          · intro made made' hmade
            exact Run.Accord.pure
              (conformedObject_reordered ⟨_, hmembers, hperm⟩ hnodup hgiven hmade)
  | array item ih =>
      cases h with
      | array hitem =>
          cases hvalue with
          | none => exact Run.Accord.pure .none
          | some hvalue =>
              simp only [Node.conform, hvalue.isEmpty_eq]
              split
              · exact Run.Accord.pure (.some hvalue)
              · cases hvalue with
                | array hlength hitems =>
                    refine Run.Accord.bind (conformItems_reordered hitems ?_ 0) ?_
                    · intro path element element' helement
                      exact conformItem_reordered hitem helement
                        (ih hblind.2 hnames.2 hitem path (.some helement))
                    · intro made made' hmade
                      exact Run.Accord.pure (.some (.array (hmade.2 ▸ hlength) hmade.1))
                | null | bool _ | number _ | string _ | object _ _ _ =>
                    exact Run.Accord.throw trivial

/-- What a root makes of a document in another order, by members in another order. -/
theorem conformRoot_reordered (tolerant : Bool) {members others : List (String × Node)}
    (hblind : (Node.object members).Everywhere Node.IsOrderBlind)
    (hnames : (Node.object members).Everywhere Node.HasPathNames)
    (h : (Node.object members).Reordered (.object others)) {a b : Json} (hdocument : a.Reordered b) :
    Run.Accord (fun _ _ => True) Json.Reordered (conformRoot tolerant members a)
      (conformRoot tolerant others b) := by
  rcases Node.everywhere_object.1 hblind with ⟨-, hblind⟩
  rcases Node.everywhere_object.1 hnames with ⟨⟨hnodup, -⟩, hnames⟩
  have hgiven := givenReordered_members? hdocument
  cases h with
  | object hmembers hperm =>
      refine Run.Accord.bind (conformMembers_reordered hmembers hperm ?_) ?_
      · intro member hmember other hother
        exact Node.conform_reordered tolerant (hblind member hmember) (hnames member hmember) hother
          _ (hgiven.lookup member.1)
      · intro made made' hmade
        apply Run.Accord.pure
        -- A document that is no object counts as one without members.
        generalize a.members? = given at hgiven
        generalize b.members? = given' at hgiven
        cases hgiven with
        | some hgiven =>
            exact object_reordered ⟨_, hmembers, hperm⟩ hnodup hgiven.1 hgiven.2 hmade
        | none =>
            have hempty : Shuffled Json.Reordered [] [] := ⟨[], .nil, .refl []⟩
            exact @object_reordered _ _ ⟨_, hmembers, hperm⟩ hnodup [] [] List.nodup_nil hempty _ _
              hmade

end

/-- The order of members decides nothing but which violation is met first and in which order members
are written: definitions in two orders are resolved or refused together, and documents in two orders
are both refused, or both accepted with equal results. -/
theorem validate_reordered {options : Options} {registry : Registry}
    {definition other : Definition} (h : definition.Reordered other) :
    ((∃ members, (resolve options registry definition).result = .ok members) ↔
        ∃ others, (resolve options registry other).result = .ok others) ∧
      ∀ members others, (resolve options registry definition).result = .ok members →
        (resolve options registry other).result = .ok others →
        (Node.object members).Everywhere Node.IsOrderBlind → ∀ a b : Json, a.Reordered b →
        (∃ out out', (Schema.mk options members).validate a = pure out ∧
          (Schema.mk options others).validate b = pure out' ∧ out.same out' = true) ∨
        ∃ v w, (Schema.mk options members).validate a = throw v ∧
          (Schema.mk options others).validate b = throw w := by
  refine ⟨⟨?_, ?_⟩, ?_⟩
  · rintro ⟨members, hmembers⟩
    obtain ⟨others, hothers, -⟩ := h.exists_resolve hmembers
    exact ⟨others, hothers⟩
  · rintro ⟨others, hothers⟩
    obtain ⟨members, hmembers, -⟩ := h.symm.exists_resolve hothers
    exact ⟨members, hmembers⟩
  · intro members others hmembers hothers hblind a b hdocument
    obtain ⟨others', hothers', htrees⟩ := h.exists_resolve hmembers
    obtain rfl : others' = others := by
      rw [hothers] at hothers'
      exact (Except.ok.inj hothers').symm
    have hroot := conformRoot_reordered options.partialInput hblind (resolve_hasPathNames hmembers)
      htrees hdocument
    have hruns : Run.Accord (fun _ _ => True) Json.Reordered
        ((Schema.mk options members).validate a) ((Schema.mk options others').validate b) := by
      rw [Schema.validate_eq hmembers hdocument.wellFormed.1,
        Schema.validate_eq hothers hdocument.wellFormed.2]
      refine Run.Accord.bind hroot fun out out' hout => ?_
      split
      · exact Run.Accord.pure hout
      · exact Run.Accord.pure hdocument
    rcases hruns.ends with ⟨out, out', hout, ha, hb⟩ | ⟨v, w, -, ha, hb⟩
    · exact Or.inl ⟨out, out', ha, hb, hout.same⟩
    · exact Or.inr ⟨v, w, ha, hb⟩

/-- The definition `nestedDefinition` with its members in the opposite order. -/
def turnedDefinition : Definition :=
  .object [("extra", .object [("inner", .object [("flag",
      .field { type := .kind .boolean, default := some (.fixed (.bool true)) })])]),
    ("tags", .array [.object [("id", .type (.kind .string))]]),
    ("name", .type (.kind .string))]

/-- The members that `turnedDefinition` states. -/
def turnedMembers : List (String × Node) :=
  [("extra", .object [("inner", .object [("flag",
      .field ⟨.builtin .boolean, { coerce := true, default := some (.fixed (.bool true)) }⟩)])]),
    ("tags", .array (.object [("id", .field (.bare (.builtin .string)))])),
    ("name", .field (.bare (.builtin .string)))]

/-- The document `nestedInput` with members in the opposite order, also those of an item. -/
def turnedInput : Json :=
  .object [("extra", .object [("a.b[0]", .string "kept")]),
    ("tags", .array [.object [("x", .null), ("id", .bool true)], .null, .object []]),
    ("name", .string "n")]

theorem validate_turnedInput :
    nestedDefinition.Reordered turnedDefinition ∧
      (resolve {} .builtin nestedDefinition).result = .ok nestedMembers ∧
      (resolve {} .builtin turnedDefinition).result = .ok turnedMembers ∧
      (Node.object nestedMembers).Everywhere Node.IsOrderBlind ∧
      nestedInput.Reordered turnedInput ∧
      ∃ out out', (Schema.mk {} nestedMembers).validate nestedInput = pure out ∧
        (Schema.mk {} turnedMembers).validate turnedInput = pure out' ∧ out.same out' = true := by
  have hdefinition : nestedDefinition.Reordered turnedDefinition :=
    .object (.refl fun member _ => .refl member.2) (List.reverse_perm _).symm
  have hresolve : (resolve {} .builtin nestedDefinition).result = .ok nestedMembers := rfl
  have hturned : (resolve {} .builtin turnedDefinition).result = .ok turnedMembers := rfl
  have hbare : ∀ kind, (Field.bare (.builtin kind)).IsOrderBlind := fun kind =>
    ⟨⟨kind, rfl⟩, fun default hdefault => absurd hdefault (Option.not_mem_none default),
      fun clause hclause => absurd hclause (Option.not_mem_none clause)⟩
  have hflag : (Field.mk (.builtin .boolean)
      { coerce := true, default := some (.fixed (.bool true)) }).IsOrderBlind := by
    refine ⟨⟨.boolean, rfl⟩, ?_, fun clause hclause => absurd hclause (Option.not_mem_none clause)⟩
    rintro _ ⟨⟩
    exact ⟨.bool true, rfl, trivial⟩
  have hblind : (Node.object nestedMembers).Everywhere Node.IsOrderBlind :=
    ⟨trivial, hbare .string, ⟨trivial, trivial, hbare .string, trivial⟩,
      ⟨trivial, ⟨trivial, hflag, trivial⟩, trivial⟩, trivial⟩
  have hitem : (Json.object [("id", .bool true), ("x", .null)]).Reordered
      (.object [("x", .null), ("id", .bool true)]) :=
    .object (by decide) (.cons (.bool true) (.cons .null .nil)) (List.reverse_perm _).symm
  have hempty : (Json.object []).Reordered (.object []) := .object List.nodup_nil .nil (.refl [])
  have hextra : (Json.object [("a.b[0]", .string "kept")]).Reordered
      (.object [("a.b[0]", .string "kept")]) :=
    .object (by decide) (.cons (.string "kept") .nil) (.refl _)
  have hinput : nestedInput.Reordered turnedInput :=
    .object (by decide) (.cons (.string "n") (.cons (.array (by decide)
      (.cons hitem (.cons .null (.cons hempty .nil)))) (.cons hextra .nil)))
      (List.reverse_perm _).symm
  refine ⟨hdefinition, hresolve, hturned, hblind, hinput, ?_⟩
  rcases (@validate_reordered {} .builtin _ _ hdefinition).2 _ _ hresolve hturned hblind _ _
    hinput with haccepted | ⟨v, w, hrefused, -⟩
  · exact haccepted
  · -- The document passes, as running it shows.
    have hends := congrArg (fun run : Run Json => (run.outcome fun _ => 0).1) hrefused
    cases hends

end Conform
