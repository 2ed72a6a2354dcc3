import Conform.Proofs.Conforming
import Conform.Proofs.Reshaping

/-!
# Documents that stay as they are

A document in the form of its schema is brought to that form again by leaving it as it is.  This
file defines:

* `Field.IsSteady`: a field whose outcomes it accepts unchanged;
* `Node.Settled`, `Node.MembersSettled`, `ItemsSettled`: what a tree, its members and its items
  leave as it is;

and proves that what a tree of steady fields makes of a value is settled: `Node.conform_settles`.
The main statement is `validate_validate`.
-/

namespace Conform

/-! ## Rules -/

namespace Kind

theorem atLeast_congr {x y : Binary64} (h : y.signedUnits = x.signedUnits) (bound : Bound) :
    atLeast y bound = atLeast x bound := by
  cases bound with
  | number b => simp only [atLeast, Binary64.le_iff, h]
  | date t => rfl

theorem atMost_congr {x y : Binary64} (h : y.signedUnits = x.signedUnits) (bound : Bound) :
    atMost y bound = atMost x bound := by
  cases bound with
  | number b => simp only [atMost, Binary64.le_iff, h]
  | date t => rfl

theorem fitsInt32_congr {x y : Binary64} (h : y.signedUnits = x.signedUnits) :
    fitsInt32 y = fitsInt32 x := by
  simp only [fitsInt32, Binary64.toInt_congr h]

/-- A text in its final form is read as it is. -/
theorem readString_settles {facets : Facets} {value : Json} {path : String} {output : Json}
    (h : readString facets value path = .ok output) :
    readString facets output path = .ok output := by
  rcases readString_eq_ok.1 h with ⟨text, -, rfl, hmin, hmax⟩
  have hform : reshape facets (reshape facets text) = reshape facets text :=
    reshape_reshape facets text
  refine readString_eq_ok.2 ⟨reshape facets text, rfl, ?_, ?_, ?_⟩
  · rw [hform]
  · rwa [hform]
  · rwa [hform]

/-- A number that was written is read as it is: its form and its value are kept. -/
theorem readNumber_settles {kind : Kind} {facets : Facets} {value : Json} {path : String}
    {output : Json} (h : kind.readNumber facets value path = .ok output) :
    kind.readNumber facets output path = .ok output := by
  rcases number_of_readNumber h with ⟨n, x, rfl, hvalue, hwhole, hmin, hmax⟩
  refine readNumber_eq_ok.2 ⟨n.toBinary64, true, rfl, checkNumber_eq_ok.2 ⟨rfl, ?_, ?_, ?_⟩⟩
  · intro hkind
    rcases hwhole hkind with ⟨hintegral, hfits⟩
    exact ⟨(Binary64.isIntegral_congr hvalue).trans hintegral,
      (fitsInt32_congr hvalue).trans hfits⟩
  · intro c hc
    exact (atLeast_congr hvalue c.value).trans (hmin c hc)
  · intro c hc
    exact (atMost_congr hvalue c.value).trans (hmax c hc)

/-- What a kind other than dates reads it reads again as it is. -/
theorem readValue_settles {kind : Kind} (hkind : kind ≠ date) {facets : Facets} {value : Json}
    {path : String} {output : Json} (h : kind.readValue facets value path = .ok output) :
    kind.readValue facets output path = .ok output := by
  cases kind with
  | string => exact readString_settles h
  | boolean =>
      rcases bool_of_readBoolean h with ⟨b, rfl⟩
      rfl
  | number | int32 | decimal128 | double => exact readNumber_settles h
  | date => exact absurd rfl hkind
  | object =>
      rcases hasForm_of_readValue h with ⟨members, rfl⟩
      rfl
  | array =>
      rcases hasForm_of_readValue h with ⟨items, rfl⟩
      rfl

/-- A kind writes a document: a scalar, or a container as it was given. -/
theorem wellFormed_of_readValue {kind : Kind} {facets : Facets} {value : Json} {path : String}
    {output : Json} (hvalue : value.WellFormed)
    (h : kind.readValue facets value path = .ok output) : output.WellFormed := by
  have hform := hasForm_of_readValue h
  cases kind with
  | string | date =>
      rcases hform with ⟨text, rfl⟩
      exact trivial
  | boolean =>
      rcases hform with ⟨b, rfl⟩
      exact trivial
  | number | int32 | decimal128 | double =>
      rcases hform with ⟨n, rfl⟩
      exact trivial
  | object =>
      cases value with
      | object members =>
          cases h
          exact hvalue
      | _ => cases h
  | array =>
      cases value with
      | array items =>
          cases h
          exact hvalue
      | _ => cases h

end Kind

/-! ## Fields -/

/-- A field that accepts its own outcomes unchanged: it is of a built-in kind but no date, it has no
default, and it does not trim what it requires. -/
structure Field.IsSteady (field : Field) : Prop where
  kind : ∃ kind, field.type = .builtin kind ∧ kind ≠ .date
  default : field.facets.default = none
  untrimmed : field.facets.isRequired = true → field.facets.trim = false

/-- What a steady field accepts it accepts again as it is. -/
theorem Field.checkPresent_settles {field : Field} (hsteady : field.IsSteady) {path : String}
    {value output : Json} (h : field.checkPresent path value = .ok output) :
    field.checkPresent path output = .ok output := by
  rcases hsteady.kind with ⟨kind, hkind, hdate⟩
  rcases checkPresent_eq_ok.1 h with ⟨hgiven, hrule, hchecks⟩
  rw [applyRule_of_builtin hkind] at hrule
  rcases Kind.rule_eq_ok.1 hrule with ⟨-, -, rfl⟩ | ⟨hnonempty, hread⟩
  · -- An empty value that is let through is the outcome itself.
    exact h
  · have hwhen := Kind.isEmptyValue_of_readValue hnonempty hread
    -- Only trimming could leave an empty outcome, and what is required is not trimmed.
    have hkept : kind.isEmptyValue output = true → field.facets.isRequired = false := by
      intro hempty
      rcases hwhen.1 hempty with ⟨-, -, htrim, -⟩
      refine Bool.eq_false_iff.2 (fun hrequired => ?_)
      exact absurd (htrim.symm.trans (hsteady.untrimmed hrequired)) (by decide)
    refine checkPresent_eq_ok.2 ⟨?_, ?_, hchecks⟩
    · intro hrequired
      rw [isEmptyValue_of_builtin hkind]
      refine Bool.eq_false_iff.2 (fun hempty => ?_)
      exact absurd (hrequired.symm.trans (hkept hempty)) (by decide)
    · rw [applyRule_of_builtin hkind]
      refine Kind.rule_eq_ok.2 ?_
      cases hempty : kind.isEmptyValue output with
      | true => exact Or.inl ⟨rfl, hkept hempty, rfl⟩
      | false => exact Or.inr ⟨rfl, Kind.readValue_settles hdate hread⟩

theorem Field.wellFormed_of_checkPresent {field : Field} {kind : Kind}
    (hkind : field.type = .builtin kind) {path : String} {value output : Json}
    (hvalue : value.WellFormed) (h : field.checkPresent path value = .ok output) :
    output.WellFormed := by
  have hrule := (checkPresent_eq_ok.1 h).2.1
  rw [applyRule_of_builtin hkind] at hrule
  rcases Kind.rule_eq_ok.1 hrule with ⟨-, -, rfl⟩ | ⟨-, hread⟩
  · exact hvalue
  · exact Kind.wellFormed_of_readValue hvalue hread

/-! ## Trees -/

namespace Node

/-- A field that accepts its own outcomes unchanged, or no field at all. -/
def IsSteady : Node → Prop
  | field f => f.IsSteady
  | object _ | array _ => True

/-- A tree leaves a value at a path as it is, or its absence, and the value is a document. -/
structure Settled (tolerant : Bool) (node : Node) (path : String) (result : Option Json) :
    Prop where
  stays : node.conform tolerant path result = pure result
  wellFormed : ∀ value ∈ result, Json.WellFormed value

/-- Members are made again of any object that has just them under the declared names. -/
structure MembersSettled (tolerant : Bool) (members : List (String × Node)) (path : String)
    (made : List (String × Json)) : Prop where
  stays : ∀ given : Option (List (String × Json)),
    (∀ member ∈ members, given.bind (Json.lookup member.1) = Json.lookup member.1 made) →
      conformMembers tolerant members path given = pure made
  names : (made.map (·.1)).Sublist (members.map (·.1))
  wellFormed : ∀ member ∈ made, member.2.WellFormed

end Node

/-- Items, the first of them at a position, are left as they are, and they are as many as those that
they were made of. -/
structure ItemsSettled (conform : String → Json → Run Json) (path : String) (position : Nat)
    (items made : List Json) : Prop where
  stays : conformItems conform path position made = pure made
  length : made.length = items.length
  wellFormed : ∀ item ∈ made, Json.WellFormed item

/-- What a steady field makes is settled. -/
theorem Field.conform_settles {field : Field} (hsteady : field.IsSteady) (tolerant : Bool)
    (path : String) {value : Option Json} (hvalue : ∀ v ∈ value, Json.WellFormed v) :
    Run.Ensures (Node.Settled tolerant (.field field) path)
      (field.conform tolerant path value) := by
  rcases hsteady.kind with ⟨kind, hkind, -⟩
  cases value with
  | some given =>
      intro draws result drawn h
      rcases Run.outcome_bind_eq_ok h with ⟨output, between, hpresent, hlast⟩
      rw [Run.outcome_lift] at hpresent
      have hchecked : field.checkPresent path given = .ok output := (Prod.mk.inj hpresent).1
      cases hlast
      refine ⟨?_, ?_⟩
      · simp only [Node.conform, conform, checkPresent_settles hsteady hchecked]
        rfl
      · rintro _ ⟨⟩
        exact wellFormed_of_checkPresent hkind (hvalue given rfl) hchecked
  | none =>
      -- Without a default the absence of a value is refused, or else it stays.
      simp only [conform, hsteady.default]
      split
      · exact Run.Ensures.throw _
      · next hmissing =>
          refine Run.Ensures.pure ⟨?_, fun v hv => absurd hv (Option.not_mem_none v)⟩
          simp only [Node.conform, conform, hsteady.default, hmissing]
          rfl

namespace Node

/-! ### Objects -/

theorem conformMembers_settles {tolerant : Bool} {members : List (String × Node)}
    (hnames : (members.map (·.1)).Nodup) {path : String}
    {given : Option (List (String × Json))}
    (hparts : ∀ member ∈ members, Run.Ensures
      (member.2.Settled tolerant (Path.child path member.1))
      (member.2.conform tolerant (Path.child path member.1)
        (given.bind (Json.lookup member.1)))) :
    Run.Ensures (MembersSettled tolerant members path)
      (conformMembers tolerant members path given) := by
  induction members with
  | nil =>
      refine Run.Ensures.pure ⟨fun _ _ => rfl, List.Sublist.refl [], ?_⟩
      exact fun member hmember => absurd hmember List.not_mem_nil
  | cons member rest ih =>
      rcases member with ⟨name, node⟩
      have hnodup := List.nodup_cons.1 hnames
      have hfirst := hparts (name, node) List.mem_cons_self
      have hrest := ih hnodup.2 (fun other hother => hparts other (List.mem_cons_of_mem _ hother))
      refine Run.Ensures.bind_of hfirst (fun result hresult => ?_)
      refine Run.Ensures.bind_of hrest (fun made hmade => ?_)
      have hnew : name ∉ made.map (·.1) := fun hmem => hnodup.1 (hmade.names.subset hmem)
      refine Run.Ensures.pure ⟨?_, ?_, ?_⟩
      · intro again hagain
        have hmine : again.bind (Json.lookup name) = result :=
          (hagain (name, node) List.mem_cons_self).trans (lookup_memberOf_append hnew)
        have hothers : conformMembers tolerant rest path again = pure made := by
          refine hmade.stays again (fun other hother => ?_)
          have hne : name ≠ other.1 := by
            rintro rfl
            exact hnodup.1 (List.mem_map.2 ⟨other, hother, rfl⟩)
          rw [hagain other (List.mem_cons_of_mem _ hother), lookup_memberOf_append_of_ne hne]
        simp only [conformMembers, hmine, hresult.stays, hothers, pure_bind]
      · cases result with
        | none => exact hmade.names.cons name
        | some value => exact hmade.names.cons_cons name
      · intro member hmember
        rcases List.mem_append.1 hmember with hmine | hother
        · cases result with
          | none => exact absurd hmine List.not_mem_nil
          | some value =>
              rcases List.mem_singleton.1 hmine with rfl
              exact hresult.wellFormed value rfl
        · exact hmade.wellFormed member hother

/-- Nothing that is declared is kept, and what has been kept is kept again. -/
theorem keptMembers_append {members : List (String × Node)} {made : List (String × Json)}
    (hmade : made.map (·.1) ⊆ members.map (·.1)) (given : List (String × Json)) :
    keptMembers members (keptMembers members given ++ made) = keptMembers members given := by
  have hdeclared : undeclared members made = [] := undeclared_eq_nil hmade
  unfold keptMembers
  split
  · calc
      undeclared members (undeclared members given ++ made)
          = undeclared members (undeclared members given) ++ undeclared members made :=
            List.filter_append _ _
      _ = undeclared members given := by
            rw [hdeclared, List.append_nil]
            simp [undeclared]
  · rfl

/-- What stands under a name in a document is a document. -/
theorem wellFormed_of_lookup {given : Option (List (String × Json))}
    (hgiven : ∀ g ∈ given, (g.map (·.1)).Nodup ∧ ∀ member ∈ g, member.2.WellFormed)
    (name : String) : ∀ v ∈ given.bind (Json.lookup name), Json.WellFormed v := by
  intro v hv
  rcases Option.bind_eq_some_iff.1 hv with ⟨g, hg, hlookup⟩
  exact (hgiven g hg).2 _ (Json.lookup_mem hlookup)

/-- What is kept of a document and what is made have keys of their own. -/
theorem nodup_keptMembers_append {members : List (String × Node)}
    {made given : List (String × Json)} (hgiven : (given.map (·.1)).Nodup)
    (hnames : (members.map (·.1)).Nodup)
    (hmade : (made.map (·.1)).Sublist (members.map (·.1))) :
    ((keptMembers members given ++ made).map (·.1)).Nodup := by
  have hkept : ((keptMembers members given).map (·.1)).Nodup := by
    unfold keptMembers
    split
    · exact hgiven.sublist (List.filter_sublist.map _)
    · exact List.nodup_nil
  rw [List.map_append]
  refine List.nodup_append'.2 ⟨hkept, hnames.sublist hmade, ?_⟩
  intro key hkey hdeclared
  exact Json.lookup_eq_none_iff.1 (lookup_keptMembers (hmade.subset hdeclared) given) hkey

theorem mem_of_mem_keptMembers {members : List (String × Node)} {given : List (String × Json)}
    {member : String × Json} (h : member ∈ keptMembers members given) : member ∈ given := by
  unfold keptMembers at h
  split at h
  · exact (List.mem_filter.1 h).1
  · exact absurd h List.not_mem_nil

namespace MembersSettled

variable {tolerant : Bool} {members : List (String × Node)} {path : String}
  {made : List (String × Json)}

/-- Members are made again of the object that they were made into. -/
theorem conformMembers_append (h : MembersSettled tolerant members path made)
    (given : List (String × Json)) :
    conformMembers tolerant members path (some (keptMembers members given ++ made)) =
      pure made := by
  refine h.stays _ (fun member hmember => ?_)
  have hkept : Json.lookup member.1 (keptMembers members given) = none :=
    lookup_keptMembers (List.mem_map_of_mem hmember) given
  simp [Json.lookup_append, hkept]

theorem keptMembers_append (h : MembersSettled tolerant members path made)
    (given : List (String × Json)) :
    keptMembers members (keptMembers members given ++ made) = keptMembers members given :=
  Node.keptMembers_append h.names.subset given

theorem wellFormed_append (h : MembersSettled tolerant members path made)
    (hnames : (members.map (·.1)).Nodup) {given : List (String × Json)}
    (hgiven : (given.map (·.1)).Nodup ∧ ∀ member ∈ given, member.2.WellFormed) :
    (Json.object (keptMembers members given ++ made)).WellFormed := by
  refine Json.everywhere_object.2 ⟨nodup_keptMembers_append hgiven.1 hnames h.names, ?_⟩
  intro member hmember
  rcases List.mem_append.1 hmember with hkept | hmine
  · exact hgiven.2 member (mem_of_mem_keptMembers hkept)
  · exact h.wellFormed member hmine

end MembersSettled

/-- An object is settled when its members are. -/
theorem settled_conformedObject {tolerant : Bool} {members : List (String × Node)} {path : String}
    {made : List (String × Json)} (h : MembersSettled tolerant members path made)
    (hnames : (members.map (·.1)).Nodup) {given : Option (List (String × Json))}
    (hgiven : ∀ g ∈ given, (g.map (·.1)).Nodup ∧ ∀ member ∈ g, member.2.WellFormed) :
    (Node.object members).Settled tolerant path (conformedObject members made given) := by
  -- An object of which nothing is kept is the case of one that was not given but made.
  have hobject : ∀ g : List (String × Json),
      ((g.map (·.1)).Nodup ∧ ∀ member ∈ g, member.2.WellFormed) →
        (Node.object members).Settled tolerant path
          (some (.object (keptMembers members g ++ made))) := by
    intro g hg
    refine ⟨?_, ?_⟩
    · simp only [Node.conform, Option.bind_some, Json.members?, h.conformMembers_append, pure_bind,
        conformedObject, h.keptMembers_append]
    · rintro _ ⟨⟩
      exact h.wellFormed_append hnames hg
  cases given with
  | some g => exact hobject g (hgiven g rfl)
  | none =>
      cases made with
      | nil =>
          refine ⟨?_, fun v hv => absurd hv (Option.not_mem_none v)⟩
          have hnone : conformMembers tolerant members path none = pure [] :=
            h.stays none (fun _ _ => rfl)
          simp only [Node.conform, conformedObject, objectOf?, Option.bind_none, hnone, pure_bind]
      | cons first rest =>
          have hkept : keptMembers members [] = [] := by simp [keptMembers, undeclared]
          have hmade := hobject [] ⟨List.nodup_nil, fun _ hmember => absurd hmember List.not_mem_nil⟩
          rw [hkept, List.nil_append] at hmade
          exact hmade

/-! ### Items -/

/-- What an object makes is an object. -/
theorem isObject_of_conform (tolerant : Bool) {node : Node} (hnode : node.isObject = true)
    (path : String) (value : Option Json) :
    Run.Ensures (fun result => ∀ v ∈ result, Json.isObject v = true)
      (node.conform tolerant path value) := by
  cases node with
  | object members =>
      refine Run.Ensures.bind (fun made => Run.Ensures.pure ?_)
      intro v hv
      cases hgiven : value.bind Json.members? with
      | some given =>
          rw [hgiven] at hv
          cases hv
          rfl
      | none =>
          rw [hgiven] at hv
          cases made with
          | nil => cases hv
          | cons first rest =>
              cases hv
              rfl
  | field _ | array _ => cases hnode

/-- An item is settled when its tree settles it. -/
theorem conformItem_settles {tolerant : Bool} {node : Node} {path : String} {item : Json}
    (hitem : item.WellFormed)
    (h : Run.Ensures (node.Settled tolerant path) (node.conform tolerant path (some item))) :
    Run.Ensures
      (fun made => conformItem node (node.conform tolerant path (some made)) path made = pure made ∧
        made.WellFormed)
      (conformItem node (node.conform tolerant path (some item)) path item) := by
  unfold conformItem
  by_cases hshape : (node.isObject && !item.isObject) = true
  · -- An item that should be an object and is not stays as it is, or is refused.
    simp only [hshape, if_true]
    split
    · next hempty => exact Run.Ensures.pure ⟨by simp only [hshape, hempty, if_true], hitem⟩
    · exact Run.Ensures.throw _
  · rw [if_neg hshape]
    have hkind : node.isObject = true → item.isObject = true := by
      intro hnode
      simpa [hnode] using hshape
    intro draws made drawn hmade
    rcases Run.outcome_bind_eq_ok hmade with ⟨result, between, hresult, hlast⟩
    rcases Option.isSome_iff_exists.1
      (conform_ensures_some tolerant hkind path _ _ _ hresult) with ⟨value, rfl⟩
    cases hlast
    have hsettled := h _ _ _ hresult
    refine ⟨?_, hsettled.wellFormed value rfl⟩
    rw [Option.getD_some]
    have hobject : ¬ (node.isObject && !value.isObject) = true := by
      intro hwrong
      rcases Bool.and_eq_true_iff.1 hwrong with ⟨hnode, hvalue⟩
      have hmade := isObject_of_conform tolerant hnode path _ _ _ _ hresult value rfl
      simp [hmade] at hvalue
    rw [if_neg hobject, hsettled.stays]
    rfl

end Node

/-- Items are settled when each of them is, wherever it stands. -/
theorem conformItems_settles {conform : String → Json → Run Json} {path : String}
    {items : List Json}
    (hparts : ∀ item ∈ items, ∀ path, Run.Ensures
      (fun made => conform path made = pure made ∧ made.WellFormed) (conform path item))
    (position : Nat) :
    Run.Ensures (ItemsSettled conform path position items)
      (conformItems conform path position items) := by
  induction items generalizing position with
  | nil => exact Run.Ensures.pure ⟨rfl, rfl, fun item hitem => absurd hitem List.not_mem_nil⟩
  | cons item rest ih =>
      have hfirst := hparts item List.mem_cons_self (Path.item path position)
      have hrest := ih (fun other hother => hparts other (List.mem_cons_of_mem _ hother))
        (position + 1)
      refine Run.Ensures.bind_of hfirst (fun first hfirst => ?_)
      refine Run.Ensures.bind_of hrest (fun made hmade => ?_)
      refine Run.Ensures.pure ⟨?_, ?_, ?_⟩
      · simp only [conformItems, hfirst.1, hmade.stays, pure_bind]
      · rw [List.length_cons, List.length_cons, hmade.length]
      · intro other hother
        rcases List.mem_cons.1 hother with rfl | hmem
        · exact hfirst.2
        · exact hmade.wellFormed other hmem

/-! ### Induction -/

/-- What a tree of steady fields makes of a value is settled. -/
theorem Node.conform_settles (tolerant : Bool) {node : Node}
    (hsteady : node.Everywhere IsSteady) (hnames : node.Everywhere HasPathNames) (path : String)
    {value : Option Json} (hvalue : ∀ v ∈ value, Json.WellFormed v) :
    Run.Ensures (node.Settled tolerant path) (node.conform tolerant path value) := by
  induction node using Node.induct generalizing path value with
  | field field => exact field.conform_settles hsteady tolerant path hvalue
  | object members ih =>
      rcases everywhere_object.1 hsteady with ⟨-, hmembers⟩
      rcases everywhere_object.1 hnames with ⟨⟨hnodup, -⟩, hforms⟩
      have hgiven : ∀ given ∈ value.bind Json.members?, (given.map (·.1)).Nodup ∧
          ∀ member ∈ given, member.2.WellFormed := by
        intro given hgiven
        rcases Option.bind_eq_some_iff.1 hgiven with ⟨v, hv, hmembers⟩
        exact Json.wellFormed_of_members? (hvalue v hv) hmembers
      refine Run.Ensures.bind_of (conformMembers_settles hnodup ?_) (fun made hmade => ?_)
      · intro member hmember
        exact ih member hmember (hmembers member hmember) (hforms member hmember) _
          (wellFormed_of_lookup hgiven member.1)
      · exact Run.Ensures.pure (settled_conformedObject hmade hnodup hgiven)
  | array item ih =>
      cases value with
      | none => exact Run.Ensures.pure ⟨rfl, fun v hv => absurd hv (Option.not_mem_none v)⟩
      | some value =>
          simp only [Node.conform]
          split
          · next hempty =>
              refine Run.Ensures.pure ⟨?_, hvalue⟩
              simp only [Node.conform, hempty, if_true]
          · cases value with
            | array items =>
                rcases Json.everywhere_array.1 (hvalue _ rfl) with ⟨hlength, hitems⟩
                refine Run.Ensures.bind_of (conformItems_settles ?_ 0) (fun made hmade => ?_)
                · intro element helement path
                  refine conformItem_settles (hitems element helement) ?_
                  refine ih hsteady.2 hnames.2 path ?_
                  rintro _ ⟨⟩
                  exact hitems element helement
                · refine Run.Ensures.pure ⟨?_, ?_⟩
                  · simp only [Node.conform, hmade.stays, pure_bind]
                    rfl
                  · rintro _ ⟨⟩
                    refine Json.everywhere_array.2 ⟨?_, hmade.wellFormed⟩
                    change made.length ≤ 2 ^ 64
                    rw [hmade.length]
                    exact hlength
            | _ => exact Run.Ensures.throw _

/-! ## Whole documents -/

/-- What a tree of steady fields makes of a whole document it leaves as it is. -/
theorem conformRoot_settles (tolerant : Bool) {members : List (String × Node)}
    (hsteady : (Node.object members).Everywhere Node.IsSteady)
    (hnames : (Node.object members).Everywhere Node.HasPathNames) {document : Json}
    (hdocument : document.WellFormed) :
    Run.Ensures (fun result => conformRoot tolerant members result = pure result ∧
      result.WellFormed) (conformRoot tolerant members document) := by
  rcases Node.everywhere_object.1 hsteady with ⟨-, hfields⟩
  rcases Node.everywhere_object.1 hnames with ⟨⟨hnodup, -⟩, hforms⟩
  have hgiven : ∀ given ∈ document.members?, (given.map (·.1)).Nodup ∧
      ∀ member ∈ given, member.2.WellFormed :=
    fun _ hmem => Json.wellFormed_of_members? hdocument hmem
  refine Run.Ensures.bind_of (Node.conformMembers_settles hnodup ?_) (fun made hmade => ?_)
  · intro member hmember
    exact Node.conform_settles tolerant (hfields member hmember) (hforms member hmember) _
      (Node.wellFormed_of_lookup hgiven member.1)
  · have hbase : ((document.members?.getD []).map (·.1)).Nodup ∧
        ∀ member ∈ document.members?.getD [], member.2.WellFormed := by
      cases hmembers : document.members? with
      | some given => exact hgiven given hmembers
      | none => exact ⟨List.nodup_nil, fun _ hmember => absurd hmember List.not_mem_nil⟩
    refine Run.Ensures.pure ⟨?_, hmade.wellFormed_append hnodup hbase⟩
    simp only [conformRoot, Json.members?, hmade.conformMembers_append, pure_bind,
      Option.getD_some, hmade.keptMembers_append]

/-- A document in the form of its schema stays as it is, under whatever has been drawn: the schema
coerces, its fields are of built-in kinds other than dates, none has a default, and none trims what
it requires. -/
theorem validate_validate {options : Options} {registry : Registry} {definition : Definition}
    {schema : Schema} {document result : Json}
    (hschema : (resolve options registry definition).result = .ok schema.members)
    (hcoerce : schema.options.coerce = true)
    (hsteady : (Node.object schema.members).Everywhere Node.IsSteady)
    (hdocument : document.WellFormed) {draws drawn : Draws}
    (h : (schema.validate document).outcome draws = (.ok result, drawn)) :
    schema.validate result = pure result := by
  have hnames := resolve_hasPathNames hschema
  have hmakes : ∀ document : Json, document.WellFormed → schema.validate document =
      conformRoot schema.options.partialInput schema.members document := by
    intro document hdocument
    simp [schema.validate_eq hschema hdocument, hcoerce]
  rw [hmakes document hdocument] at h
  obtain ⟨hstays, hresult⟩ := conformRoot_settles _ hsteady hnames hdocument _ _ _ h
  rw [hmakes result hresult, hstays]

/-- A text without blanks around it. -/
def nameField : Field := ⟨.builtin .string, { coerce := true, trim := true }⟩

/-- A name, items with marks, and an object that keeps what it does not declare. -/
def sizesMembers : List (String × Node) :=
  [("name", .field nameField),
    ("sizes", .array (.object [("wide", .field (.bare (.builtin .boolean)))])),
    ("extra", .object [("inner", .object [("note", .field (.bare (.builtin .string)))])])]

/-- The definition that states `sizesMembers`. -/
def sizesDefinition : Definition :=
  .object [("name", .field { type := .kind .string, constraints := [("trim", .bool true)] }),
    ("sizes", .array [.object [("wide", .type (.kind .boolean))]]),
    ("extra", .object [("inner", .object [("note", .type (.kind .string))])])]

/-- A word for a boolean, an empty item, and members that are not declared or out of order. -/
def sizesDocument : Json :=
  .object [("extra", .object [("inner", .null), ("a.b", .null)]),
    ("sizes", .array [.object [("wide", .string "yes"), ("high", .bool true)], .null]),
    ("name", .string " n ")]

/-- The form to which `sizesDocument` is brought. -/
def sizesResult : Json :=
  .object [("name", .string "n"),
    ("sizes", .array [.object [("wide", .bool true)], .null]),
    ("extra", .object [("a.b", .null)])]

theorem validate_sizesResult :
    (resolve {} .builtin sizesDefinition).result = .ok sizesMembers ∧ sizesDocument.WellFormed ∧
      (∀ draws, ((Schema.mk {} sizesMembers).validate sizesDocument).outcome draws =
        (.ok sizesResult, draws)) ∧
      (Schema.mk {} sizesMembers).validate sizesResult = pure sizesResult := by
  have hresolve : (resolve {} .builtin sizesDefinition).result = .ok sizesMembers := rfl
  have hform : sizesDocument.WellFormed := by
    simp [sizesDocument, Json.WellFormed, Json.Everywhere, Json.EverywhereItems,
      Json.EverywhereMembers, Json.IsTidy]
  have hpasses : ∀ draws, ((Schema.mk {} sizesMembers).validate sizesDocument).outcome draws =
      (.ok sizesResult, draws) := fun _ => rfl
  have hname : nameField.IsSteady :=
    ⟨⟨.string, rfl, by decide⟩, rfl, fun hrequired => Bool.noConfusion hrequired⟩
  have hbare : ∀ kind : Kind, kind ≠ .date → (Field.bare (.builtin kind)).IsSteady :=
    fun kind hkind => ⟨⟨kind, rfl, hkind⟩, rfl, fun _ => rfl⟩
  have hsteady : (Node.object sizesMembers).Everywhere Node.IsSteady :=
    ⟨trivial, hname, ⟨trivial, trivial, hbare .boolean (by decide), trivial⟩,
      ⟨trivial, ⟨trivial, hbare .string (by decide), trivial⟩, trivial⟩, trivial⟩
  exact ⟨hresolve, hform, hpasses,
    @validate_validate {} .builtin sizesDefinition ⟨{}, sizesMembers⟩ sizesDocument sizesResult
      hresolve rfl hsteady hform _ _ (hpasses fun _ => 0)⟩

end Conform
