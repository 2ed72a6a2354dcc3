import Conform.Proofs.Flattening
import Conform.Proofs.Frames
import Conform.Proofs.Reordering

/-!
# Leaves in any order

The leaves of a document make the document again in whatever order they are written.  On the way
there is only a part of it: containers that lack members or end too soon, and `null` where items are
still to come.  This file defines:

* `Json.isLeaf`: a scalar or an empty container;
* `Json.HasLeaf`: a leaf at the end of some steps;
* `Json.Within`: a part of a document, as writing some of its leaves leaves it;

and proves that a log of leaves keeps within the document (`Json.Within.writeAt`), that each leaf is
found once it is written (`Json.Within.writeAll`), and that a part with all of the leaves is the
document (`Json.Within.same`).  The main statement is `rebuild_perm`.
-/

namespace Conform

namespace Json

/-! ## One step -/

/-- A step leads from an object to one of its members, or from an array to one of its items. -/
theorem step?_cases {document part : Json} {step : Segment}
    (h : document.step? step = some part) :
    (∃ members name, document = object members ∧ step = .key name ∧
      lookup name members = some part) ∨
      ∃ items position, document = array items ∧ step = .index position ∧
        items[position]? = some part := by
  cases document with
  | object members =>
      cases step with
      | key name => exact Or.inl ⟨members, name, rfl, rfl, h⟩
      | index position => cases h
  | array items =>
      cases step with
      | key name => cases h
      | index position => exact Or.inr ⟨items, position, rfl, rfl, h⟩
  | null | bool _ | number _ | string _ => cases step <;> cases h

/-- Induction over what steps lead to. -/
@[elab_as_elim]
theorem induct_step? {motive : Json → Prop}
    (part : ∀ document, (∀ step part, document.step? step = some part → motive part) →
      motive document) (document : Json) : motive document := by
  induction document using Json.induct with
  | null | bool _ | number _ | string _ =>
      exact part _ fun step _ hstep => by cases step <;> cases hstep
  | array items ih =>
      refine part _ fun step item hstep => ?_
      rcases step?_cases hstep with ⟨_, _, ⟨⟩, -⟩ | ⟨_, position, ⟨⟩, -, hitem⟩
      exact ih item (List.mem_of_getElem? hitem)
  | object members ih =>
      refine part _ fun step value hstep => ?_
      rcases step?_cases hstep with ⟨_, name, ⟨⟩, -, hvalue⟩ | ⟨_, _, ⟨⟩, -⟩
      exact ih (name, value) (lookup_mem hvalue)

theorem Everywhere.step? {p : Json → Prop} {document part : Json} {step : Segment}
    (h : document.Everywhere p) (hstep : document.step? step = some part) : part.Everywhere p := by
  rcases step?_cases hstep with ⟨members, name, rfl, -, hvalue⟩ | ⟨items, position, rfl, -, hitem⟩
  · exact (everywhere_object.1 h).2 (name, part) (lookup_mem hvalue)
  · exact (everywhere_array.1 h).2 part (List.mem_of_getElem? hitem)

/-- The steps into a document can be written in a path when its keys can. -/
theorem isPlain_of_step? {document part : Json} {step : Segment} (hform : document.WellFormed)
    (hplain : document.HasPlainKeys) (hstep : document.step? step = some part) : step.IsPlain := by
  rcases step?_cases hstep with ⟨members, name, rfl, rfl, hvalue⟩ |
    ⟨items, position, rfl, rfl, hitem⟩
  · exact (everywhere_object.1 hplain).1 (name, part) (lookup_mem hvalue)
  · have hlength : items.length ≤ 2 ^ 64 := (everywhere_array.1 hform).1
    exact Nat.lt_of_lt_of_le (List.getElem?_eq_some_iff.1 hitem).1 hlength

/-! ## Leaves -/

/-- A scalar or an empty container. -/
def isLeaf : Json → Bool
  | object (_ :: _) | array (_ :: _) => false
  | _ => true

/-- A leaf at the end of some steps. -/
structure HasLeaf (document : Json) (steps : List Segment) (leaf : Json) : Prop where
  found : document.at? steps = some leaf
  isLeaf : leaf.isLeaf = true

theorem step?_of_isLeaf {document : Json} (h : document.isLeaf = true) (step : Segment) :
    document.step? step = none := by
  cases document with
  | object members =>
      cases members with
      | nil => cases step <;> rfl
      | cons => cases h
  | array items =>
      cases items with
      | nil => cases step <;> rfl
      | cons => cases h
  | null | bool _ | number _ | string _ => cases step <;> rfl

theorem exists_step?_of_not_isLeaf {document : Json} (h : document.isLeaf = false) :
    ∃ step part, document.step? step = some part := by
  cases document with
  | object members =>
      cases members with
      | nil => cases h
      | cons member rest =>
          have hfirst : (Json.object (member :: rest)).step? (.key member.1) = some member.2 := by
            simp [step?, get?, members?, lookup]
          exact ⟨_, _, hfirst⟩
  | array items =>
      cases items with
      | nil => cases h
      | cons item rest => exact ⟨.index 0, item, rfl⟩
  | null | bool _ | number _ | string _ => cases h

/-- A leaf has no leaf but itself. -/
theorem hasLeaf_iff_of_isLeaf {document : Json} (h : document.isLeaf = true)
    {steps : List Segment} {leaf : Json} :
    document.HasLeaf steps leaf ↔ steps = [] ∧ document = leaf := by
  constructor
  · rintro ⟨hfound, -⟩
    cases steps with
    | nil => exact ⟨rfl, Option.some.inj hfound⟩
    | cons step rest =>
        rw [at?, step?_of_isLeaf h] at hfound
        cases hfound
  · rintro ⟨rfl, rfl⟩
    exact ⟨rfl, h⟩

/-- The leaves below a container are those of its parts. -/
theorem hasLeaf_iff_of_not_isLeaf {document : Json} (h : document.isLeaf = false)
    {steps : List Segment} {leaf : Json} :
    document.HasLeaf steps leaf ↔
      ∃ step rest part, steps = step :: rest ∧ document.step? step = some part ∧
        part.HasLeaf rest leaf := by
  constructor
  · rintro ⟨hfound, hleaf⟩
    cases steps with
    | nil =>
        obtain rfl := Option.some.inj hfound
        rw [h] at hleaf
        cases hleaf
    | cons step rest =>
        obtain ⟨part, hpart, hrest⟩ := Option.bind_eq_some_iff.1 hfound
        exact ⟨step, rest, part, rfl, hpart, hrest, hleaf⟩
  · rintro ⟨step, rest, part, rfl, hpart, hfound, hleaf⟩
    refine ⟨?_, hleaf⟩
    rw [at?, hpart]
    exact hfound

/-- Every leaf of another document is found, at the same place. -/
def HasLeavesOf (part whole : Json) : Prop :=
  ∀ steps leaf, whole.HasLeaf steps leaf → part.at? steps = some leaf

/-- Every document has a leaf. -/
theorem exists_hasLeaf (document : Json) : ∃ steps leaf, document.HasLeaf steps leaf := by
  induction document using induct_step? with
  | part document ih =>
      by_cases hleaf : document.isLeaf = true
      · exact ⟨[], document, rfl, hleaf⟩
      · rw [Bool.not_eq_true] at hleaf
        obtain ⟨step, part, hstep⟩ := exists_step?_of_not_isLeaf hleaf
        obtain ⟨steps, leaf, hhas⟩ := ih step part hstep
        exact ⟨_, leaf, (hasLeaf_iff_of_not_isLeaf hleaf).2 ⟨step, steps, part, rfl, hstep, hhas⟩⟩

/-- Two steps that a document takes are the same, or lead to different parts of it. -/
theorem eq_or_apart_of_step? {document part part' : Json} {step other : Segment}
    (h : document.step? step = some part) (h' : document.step? other = some part')
    (rest rest' : List Segment) : step = other ∨ Apart (step :: rest) (other :: rest') := by
  rcases step?_cases h with ⟨members, name, rfl, rfl, -⟩ | ⟨items, position, rfl, rfl, -⟩
  · rcases step?_cases h' with ⟨_, name', -, rfl, -⟩ | ⟨_, _, ⟨⟩, -⟩
    rcases eq_or_ne name name' with rfl | hne
    · exact Or.inl rfl
    · exact Or.inr (.key hne rest rest')
  · rcases step?_cases h' with ⟨_, _, ⟨⟩, -⟩ | ⟨_, position', -, rfl, -⟩
    rcases eq_or_ne position position' with rfl | hne
    · exact Or.inl rfl
    · exact Or.inr (.index hne rest rest')

/-- The ways to two leaves part, unless they are the same. -/
theorem HasLeaf.eq_or_apart {document : Json} {steps other : List Segment} {leaf leaf' : Json}
    (h : document.HasLeaf steps leaf) (h' : document.HasLeaf other leaf') :
    steps = other ∨ Apart steps other := by
  induction steps generalizing document other with
  | nil =>
      have hdocument : document.isLeaf = true := by
        rw [Option.some.inj h.found]
        exact h.isLeaf
      exact Or.inl ((hasLeaf_iff_of_isLeaf hdocument).1 h').1.symm
  | cons step rest ih =>
      have hdocument : document.isLeaf = false := by
        rw [Bool.eq_false_iff]
        intro hleaf
        exact List.cons_ne_nil _ _ ((hasLeaf_iff_of_isLeaf hleaf).1 h).1
      obtain ⟨_, _, part, ⟨⟩, hpart, hrest⟩ := (hasLeaf_iff_of_not_isLeaf hdocument).1 h
      obtain ⟨step', rest', part', rfl, hpart', hrest'⟩ :=
        (hasLeaf_iff_of_not_isLeaf hdocument).1 h'
      rcases eq_or_apart_of_step? hpart hpart' rest rest' with rfl | hapart
      · obtain rfl := Option.some.inj (hpart.symm.trans hpart')
        rcases ih hrest hrest' with rfl | hapart
        · exact Or.inl rfl
        · exact Or.inr (.step step hapart)
      · exact Or.inr hapart

/-! ## Parts of a document -/

/-- A part of a document, as some of its leaves leave it when they are written: an object may lack
members, an array may end too soon, and `null` stands where something is still to come. -/
inductive Within : Json → Json → Prop
  | absent (whole : Json) : Within .null whole
  | leaf {whole : Json} (h : whole.isLeaf = true) : Within whole whole
  | object {parts members : List (String × Json)} (hkeys : (parts.map (·.1)).Nodup)
      (hnames : parts.map (·.1) ⊆ members.map (·.1))
      (h : ∀ (name : String) (part whole : Json), lookup name parts = some part →
        lookup name members = some whole → Within part whole) :
      Within (.object parts) (.object members)
  | array {parts items : List Json} (hlength : parts.length ≤ items.length)
      (h : ∀ (position : Nat) (part whole : Json), parts[position]? = some part →
        items[position]? = some whole → Within part whole) : Within (.array parts) (.array items)

namespace Within

variable {part whole : Json}

/-- The members that are there have keys of their own, all of them keys of the whole. -/
theorem members {members : List (String × Json)} (h : Within part (.object members)) :
    (part.membersOrNone.map (·.1)).Nodup ∧ part.membersOrNone.map (·.1) ⊆ members.map (·.1) := by
  cases h with
  | absent => exact ⟨List.nodup_nil, List.nil_subset _⟩
  | leaf hleaf =>
      cases members with
      | nil => exact ⟨List.nodup_nil, List.nil_subset _⟩
      | cons => cases hleaf
  | object hkeys hnames => exact ⟨hkeys, hnames⟩

/-- There are no more items than those of the whole. -/
theorem items {items : List Json} (h : Within part (.array items)) :
    part.itemsOrNone.length ≤ items.length := by
  cases h with
  | absent => exact Nat.zero_le _
  | leaf hleaf => exact Nat.le_refl _
  | array hlength => exact hlength

/-- What a step leads to is a part of what it leads to in the whole. -/
theorem step (h : Within part whole) {step : Segment} {below : Json}
    (hstep : whole.step? step = some below) : Within ((part.step? step).getD null) below := by
  cases hpart : part.step? step with
  | none => exact absent below
  | some found =>
      cases h with
      | absent => cases step <;> cases hpart
      | leaf hleaf =>
          rw [step?_of_isLeaf hleaf] at hpart
          cases hpart
      | object _ _ h =>
          cases step with
          | key name => exact h name found below hpart hstep
          | index position => cases hpart
      | array _ h =>
          cases step with
          | key name => cases hpart
          | index position => exact h position found below hpart hstep

theorem standing (h : Within part whole) {steps : List Segment} {below : Json}
    (hsteps : whole.at? steps = some below) : Within (part.standing steps) below := by
  induction steps generalizing part whole with
  | nil =>
      cases hsteps
      exact h
  | cons step rest ih =>
      obtain ⟨next, hnext, hrest⟩ := Option.bind_eq_some_iff.1 hsteps
      rw [standing_cons]
      exact ih (h.step hnext) hrest

/-- A leaf has no parts but itself, once it is there. -/
theorem eq_null_or_eq {leaf : Json} (h : Within part leaf) (hleaf : leaf.isLeaf = true) :
    part = null ∨ part = leaf := by
  cases h with
  | absent => exact Or.inl rfl
  | leaf => exact Or.inr rfl
  | @object parts members hkeys hnames =>
      cases members with
      | nil =>
          obtain rfl : parts = [] := List.map_eq_nil_iff.1 (List.subset_nil.1 hnames)
          exact Or.inr rfl
      | cons => cases hleaf
  | @array parts items hlength =>
      cases items with
      | nil =>
          obtain rfl : parts = [] := List.length_eq_zero_iff.1 (Nat.le_zero.1 hlength)
          exact Or.inr rfl
      | cons => cases hleaf

/-- Where only the leaf itself can stand, it leaves itself behind. -/
theorem place_eq {leaf : Json} (h : Within part leaf) (hleaf : leaf.isLeaf = true) :
    place part leaf = leaf := by
  rcases h.eq_null_or_eq hleaf with rfl | rfl
  · rfl
  · cases part with
    | object members =>
        cases members with
        | nil => rfl
        | cons => cases hleaf
    | array items => cases items <;> rfl
    | null | bool _ | number _ | string _ => rfl

/-- Writing a leaf of the document keeps within the document. -/
theorem writeAt (h : Within part whole) {steps : List Segment} {leaf : Json}
    (hleaf : whole.HasLeaf steps leaf) : Within (part.writeAt steps leaf) whole := by
  induction steps generalizing part whole with
  | nil =>
      obtain rfl : whole = leaf := Option.some.inj hleaf.found
      rw [Json.writeAt, h.place_eq hleaf.isLeaf]
      exact Within.leaf hleaf.isLeaf
  | cons step rest ih =>
      obtain ⟨hfound, hleaf⟩ := hleaf
      obtain ⟨below, hbelow, hrest⟩ := Option.bind_eq_some_iff.1 hfound
      have hnext := ih (h.step hbelow) ⟨hrest, hleaf⟩
      have hparts : ∀ other part' whole',
          (part.writeAt (step :: rest) leaf).step? other = some part' →
            whole.step? other = some whole' → Within part' whole' := by
        intro other part' whole' hpart hwhole
        rcases eq_or_apart_of_step? hbelow hwhole rest [] with rfl | hapart
        · rw [step?_writeAt] at hpart
          cases hpart
          rw [← Option.some.inj (hbelow.symm.trans hwhole)]
          exact hnext
        · -- The write leaves the other parts alone.
          have hsame := standing_writeAt_of_apart hapart part leaf
          simp only [standing_cons, standing_nil, hpart, Option.getD_some] at hsame
          rw [hsame]
          exact h.step hwhole
      rcases step?_cases hbelow with ⟨members, name, rfl, rfl, hvalue⟩ |
        ⟨items, position, rfl, rfl, hitem⟩
      · obtain ⟨hkeys, hnames⟩ := h.members
        rw [Json.writeAt]
        refine object (nodup_keys_insert hkeys _ _) ?_ (fun other => hparts (.key other))
        intro other hother
        rcases mem_keys_insert.1 hother with rfl | hmem
        · exact List.mem_map.2 ⟨_, lookup_mem hvalue, rfl⟩
        · exact hnames hmem
      · have hposition : position < items.length := (List.getElem?_eq_some_iff.1 hitem).1
        have hlength := h.items
        rw [Json.writeAt]
        refine array ?_ (fun other => hparts (.index other))
        rw [List.length_set, itemsUpTo_eq, List.length_append, List.length_replicate]
        omega

/-- Each leaf is found once it is written. -/
theorem writeAll {writes : Writes} (hwrites : ∀ write ∈ writes, whole.HasLeaf write.1 write.2)
    (h : Within part whole) :
    Within (part.writeAll writes) whole ∧
      ∀ write ∈ writes, (part.writeAll writes).at? write.1 = some write.2 := by
  induction writes generalizing part with
  | nil => exact ⟨h, fun write hwrite => absurd hwrite List.not_mem_nil⟩
  | cons first rest ih =>
      obtain ⟨hfirst, hrest⟩ := List.forall_mem_cons.1 hwrites
      obtain ⟨hwithin, hfound⟩ := ih hrest (h.writeAt hfirst)
      refine ⟨hwithin, List.forall_mem_cons.2 ⟨?_, hfound⟩⟩
      have hself : (part.writeAt first.1 first.2).at? first.1 = some first.2 := by
        rw [at?_writeAt_self, (h.standing hfirst.found).place_eq hfirst.isLeaf]
      by_cases hagain : ∃ later ∈ rest, later.1 = first.1
      · -- The same leaf is written once more.
        obtain ⟨later, hlater, hsteps⟩ := hagain
        have hsame := (hrest later hlater).found
        rw [hsteps, hfirst.found] at hsame
        rw [Option.some.inj hsame, ← hsteps]
        exact hfound later hlater
      · have hapart : ∀ later ∈ rest, Apart later.1 first.1 := by
          intro later hlater
          rcases (hrest later hlater).eq_or_apart hfirst with hsteps | hapart
          · exact absurd ⟨later, hlater, hsteps⟩ hagain
          · exact hapart
        exact Writes.at?_writeAll_of_apart hapart hself

/-- Each part of the whole has a leaf, so what has all leaves of the whole has something there. -/
theorem exists_step? (h : Within part whole) (hleaves : part.HasLeavesOf whole) {step : Segment}
    {below : Json} (hstep : whole.step? step = some below) :
    ∃ found, part.step? step = some found ∧ Within found below ∧ found.HasLeavesOf below := by
  have hbelow : ∀ steps leaf, below.HasLeaf steps leaf → part.at? (step :: steps) = some leaf := by
    intro steps leaf hleaf
    refine hleaves _ _ ⟨?_, hleaf.isLeaf⟩
    rw [at?, hstep]
    exact hleaf.found
  obtain ⟨steps, leaf, hleaf⟩ := exists_hasLeaf below
  obtain ⟨found, hfound, -⟩ := Option.bind_eq_some_iff.1 (hbelow steps leaf hleaf)
  refine ⟨found, hfound, ?_, fun steps leaf hleaf => ?_⟩
  · have hwithin := h.step hstep
    rw [hfound] at hwithin
    exact hwithin
  · have hat := hbelow steps leaf hleaf
    rw [at?, hfound] at hat
    exact hat

theorem same_of_isLeaf (hleaf : whole.isLeaf = true) (hform : whole.WellFormed)
    (hleaves : part.HasLeavesOf whole) : part.same whole = true := by
  obtain rfl : part = whole := Option.some.inj (hleaves [] whole ⟨rfl, hleaf⟩)
  exact (Reordered.refl hform).same

/-- What has all leaves of an array has an item for each of its items. -/
theorem exists_items {items : List Json} (h : Within part (.array items))
    (hleaves : part.HasLeavesOf (.array items)) (hne : items ≠ []) :
    ∃ parts, part = .array parts ∧
      List.Forall₂ (fun found item => Within found item ∧ found.HasLeavesOf item) parts items := by
  have hsteps : ∀ (position : Nat) (item : Json), items[position]? = some item →
      ∃ found, part.step? (.index position) = some found ∧ Within found item ∧
        found.HasLeavesOf item :=
    fun position item hitem =>
      h.exists_step? hleaves (show (Json.array items).step? (.index position) = _ from hitem)
  obtain ⟨first, rest, rfl⟩ := List.exists_cons_of_ne_nil hne
  cases h with
  | absent =>
      obtain ⟨found, hnone, -⟩ := hsteps 0 first rfl
      cases hnone
  | leaf hleaf => cases hleaf
  | @array parts _ hlength =>
      refine ⟨parts, rfl, List.forall₂_iff_get.2 ⟨Nat.le_antisymm hlength ?_, ?_⟩⟩
      · -- There would be a first item that the part lacks.
        by_contra hshort
        obtain ⟨found, hfound, -⟩ :=
          hsteps _ _ (List.getElem?_eq_getElem (Nat.lt_of_not_ge hshort))
        have hbeyond : parts[parts.length]? = some found := hfound
        simp at hbeyond
      · intro position hpart hitem
        obtain ⟨found, hfound, hbelow⟩ := hsteps position _ (List.getElem?_eq_getElem hitem)
        have hfound : parts[position] = found :=
          Option.some.inj ((List.getElem?_eq_getElem hpart).symm.trans hfound)
        rw [← hfound] at hbelow
        exact hbelow

/-- What has all leaves of an object has a member for each of its members. -/
theorem exists_members {members : List (String × Json)} (h : Within part (.object members))
    (hleaves : part.HasLeavesOf (.object members)) (hne : members ≠ [])
    (hkeys : (members.map (·.1)).Nodup) :
    ∃ parts, part = .object parts ∧ parts.length = members.length ∧
      ∀ member ∈ parts, ∃ value, lookup member.1 members = some value ∧
        Within member.2 value ∧ member.2.HasLeavesOf value := by
  have hsteps : ∀ name value, lookup name members = some value →
      ∃ found, part.step? (.key name) = some found ∧ Within found value ∧
        found.HasLeavesOf value :=
    fun name value hvalue =>
      h.exists_step? hleaves (show (Json.object members).step? (.key name) = _ from hvalue)
  obtain ⟨first, rest, rfl⟩ := List.exists_cons_of_ne_nil hne
  cases h with
  | absent =>
      obtain ⟨found, hnone, -⟩ := hsteps first.1 first.2 (by simp [lookup])
      cases hnone
  | leaf hleaf => cases hleaf
  | @object parts _ hkeys' hnames =>
      refine ⟨parts, rfl, ?_, ?_⟩
      · have hnames' : (first :: rest).map (·.1) ⊆ parts.map (·.1) := by
          intro name hname
          obtain ⟨value, hvalue⟩ := exists_lookup_of_mem_keys hname
          obtain ⟨found, hfound, -⟩ := hsteps name value hvalue
          exact List.mem_map.2 ⟨_, lookup_mem hfound, rfl⟩
        have hperm := (List.perm_ext_iff_of_nodup hkeys' hkeys).2
          fun name => ⟨fun hmem => hnames hmem, fun hmem => hnames' hmem⟩
        simpa using hperm.length_eq
      · intro member hmember
        obtain ⟨value, hvalue⟩ :=
          exists_lookup_of_mem_keys (hnames (List.mem_map.2 ⟨member, hmember, rfl⟩))
        obtain ⟨found, hfound, hbelow⟩ := hsteps member.1 value hvalue
        have hfound : member.2 = found :=
          Option.some.inj ((lookup_of_mem hkeys' hmember).symm.trans hfound)
        rw [← hfound] at hbelow
        exact ⟨value, hvalue, hbelow⟩

/-- A part with all of the leaves is equal to the whole. -/
theorem same (h : Within part whole) (hform : whole.WellFormed)
    (hleaves : part.HasLeavesOf whole) : part.same whole = true := by
  induction whole using Json.induct generalizing part with
  | null | bool _ | number _ | string _ => exact same_of_isLeaf rfl hform hleaves
  | array items ih =>
      rcases eq_or_ne items [] with rfl | hne
      · exact same_of_isLeaf rfl hform hleaves
      obtain ⟨parts, rfl, hparts⟩ := h.exists_items hleaves hne
      have hforms := (everywhere_array.1 hform).2
      refine sameItems_iff.2 (forall₂_imp_of_mem hparts.flip ?_).flip
      intro item hitem found hbelow
      exact ih item hitem hbelow.1 (hforms item hitem) hbelow.2
  | object members ih =>
      rcases eq_or_ne members [] with rfl | hne
      · exact same_of_isLeaf rfl hform hleaves
      obtain ⟨hkeys, hforms⟩ := everywhere_object.1 hform
      obtain ⟨parts, rfl, hlength, hparts⟩ := h.exists_members hleaves hne hkeys
      simp only [Json.same, hlength, beq_self_eq_true, Bool.true_and]
      refine sameMembers_iff.2 fun member hmember => ?_
      obtain ⟨value, hvalue, hwithin, hbelow⟩ := hparts member hmember
      have hmem := lookup_mem hvalue
      exact ⟨value, hvalue, ih _ hmem hwithin (hforms _ hmem) hbelow⟩

end Within

end Json

/-! ## Written leaves -/

theorem mem_writes_flattenMembers {path : String} {members : List (String × Json)}
    {write : List Segment × Json} :
    write ∈ Entries.writes (flattenMembers path members) ↔
      ∃ member ∈ members,
        write ∈ Entries.writes (flattenAt (Path.child path member.1) member.2) := by
  induction members with
  | nil => simp [flattenMembers, Entries.writes]
  | cons member rest ih =>
      rcases member with ⟨key, value⟩
      rw [flattenMembers, writes_append, List.mem_append, ih, List.exists_mem_cons_iff]

theorem mem_writes_flattenItems {path : String} {position : Nat} {items : List Json}
    {write : List Segment × Json} :
    write ∈ Entries.writes (flattenItems path position items) ↔
      ∃ offset item, items[offset]? = some item ∧
        write ∈ Entries.writes (flattenAt (Path.item path (position + offset)) item) := by
  induction items generalizing position with
  | nil => simp [flattenItems, Entries.writes]
  | cons first rest ih =>
      rw [flattenItems, writes_append, List.mem_append, ih]
      constructor
      · rintro (hfirst | ⟨offset, item, hitem, hwrite⟩)
        · exact ⟨0, first, rfl, hfirst⟩
        · refine ⟨offset + 1, item, hitem, ?_⟩
          rwa [Nat.add_right_comm] at hwrite
      · rintro ⟨offset, item, hitem, hwrite⟩
        cases offset with
        | zero =>
            cases hitem
            exact Or.inl hwrite
        | succ offset =>
            refine Or.inr ⟨offset, item, hitem, ?_⟩
            rwa [Nat.add_right_comm]

/-- A leaf is written for itself. -/
theorem mem_writes_of_isLeaf {document : Json} (hleaf : document.isLeaf = true) {path : String}
    {write : List Segment × Json} :
    write ∈ Entries.writes (flattenAt path document) ↔
      ∃ steps, write.1 = tokenize path ++ steps ∧ document.HasLeaf steps write.2 := by
  have hflat : flattenAt path document = [(path, document)] := by
    cases document with
    | object members =>
        cases members with
        | nil => rfl
        | cons => cases hleaf
    | array items =>
        cases items with
        | nil => rfl
        | cons => cases hleaf
    | null | bool _ | number _ | string _ => rfl
  rcases write with ⟨steps, value⟩
  simp only [hflat, Json.hasLeaf_iff_of_isLeaf hleaf]
  simp [Entries.writes, eq_comm]

/-- What is written for a container is written for what is one step away. -/
theorem mem_writes_of_not_isLeaf {document : Json} (hleaf : document.isLeaf = false)
    (hform : document.WellFormed) {path : String} {write : List Segment × Json} :
    write ∈ Entries.writes (flattenAt path document) ↔
      ∃ step part, document.step? step = some part ∧
        write ∈ Entries.writes (flattenAt (Path.extend path step) part) := by
  cases document with
  | object members =>
      have hkeys := (Json.everywhere_object.1 hform).1
      have hflat : flattenAt path (.object members) = flattenMembers path members := by
        cases members with
        | nil => cases hleaf
        | cons => rfl
      rw [hflat, mem_writes_flattenMembers]
      constructor
      · rintro ⟨⟨key, value⟩, hmember, hwrite⟩
        exact ⟨.key key, value, Json.lookup_of_mem hkeys hmember, hwrite⟩
      · rintro ⟨step, value, hstep, hwrite⟩
        cases step with
        | key key => exact ⟨(key, value), Json.lookup_mem hstep, hwrite⟩
        | index position => cases hstep
  | array items =>
      have hflat : flattenAt path (.array items) = flattenItems path 0 items := by
        cases items with
        | nil => cases hleaf
        | cons => rfl
      rw [hflat, mem_writes_flattenItems]
      simp only [Nat.zero_add]
      constructor
      · rintro ⟨position, item, hitem, hwrite⟩
        exact ⟨.index position, item, hitem, hwrite⟩
      · rintro ⟨step, item, hstep, hwrite⟩
        cases step with
        | key key => cases hstep
        | index position => exact ⟨position, item, hstep, hwrite⟩
  | null | bool _ | number _ | string _ => cases hleaf

/-- What is written for a document is its leaves, each below the path to the document. -/
theorem mem_writes_flattenAt {document : Json} (hform : document.WellFormed)
    (hplain : document.HasPlainKeys) {path : String} (hpath : Path.Closed path)
    {write : List Segment × Json} :
    write ∈ Entries.writes (flattenAt path document) ↔
      ∃ steps, write.1 = tokenize path ++ steps ∧ document.HasLeaf steps write.2 := by
  -- The induction is on the document, for every path at once, because each part has its own.
  induction document using Json.induct_step? generalizing path with
  | part document ih =>
      by_cases hleaf : document.isLeaf = true
      · exact mem_writes_of_isLeaf hleaf
      rw [Bool.not_eq_true] at hleaf
      have hparts : ∀ step part, document.step? step = some part →
          (write ∈ Entries.writes (flattenAt (Path.extend path step) part) ↔
            ∃ steps, write.1 = tokenize path ++ step :: steps ∧ part.HasLeaf steps write.2) := by
        intro step part hstep
        have hstep' := Json.isPlain_of_step? hform hplain hstep
        rw [ih step part hstep (hform.step? hstep) (hplain.step? hstep)
          (closed_extend hpath hstep'), tokenize_extend hpath hstep']
        simp only [List.append_assoc, List.singleton_append]
      simp only [mem_writes_of_not_isLeaf hleaf hform, Json.hasLeaf_iff_of_not_isLeaf hleaf]
      constructor
      · rintro ⟨step, part, hstep, hwrite⟩
        obtain ⟨steps, hsteps, hhas⟩ := (hparts step part hstep).1 hwrite
        exact ⟨_, hsteps, step, steps, part, rfl, hstep, hhas⟩
      · rintro ⟨_, hsteps, step, rest, part, rfl, hstep, hhas⟩
        exact ⟨step, part, hstep, (hparts step part hstep).2 ⟨rest, hsteps, hhas⟩⟩

/-! ## The whole log -/

/-- A leaf is written over the empty object as it is written where nothing stands. -/
theorem Json.writeAt_object_nil {leaf : Json} (h : leaf.isLeaf = true) (steps : List Segment) :
    (Json.object []).writeAt steps leaf = Json.null.writeAt steps leaf := by
  cases steps with
  | nil =>
      cases leaf with
      | object members =>
          cases members with
          | nil => rfl
          | cons => cases h
      | null | bool _ | number _ | string _ | array _ => rfl
  | cons step rest => cases step <;> rfl

theorem rebuild_eq_writeAll_null {entries : Entries}
    (h : ∀ write ∈ entries.writes, write.2.isLeaf = true) (hne : entries.writes ≠ []) :
    rebuild entries = Json.null.writeAll entries.writes := by
  rw [rebuild_eq_writeAll]
  cases hwrites : entries.writes with
  | nil => exact absurd hwrites hne
  | cons first rest =>
      have hleaf : first.2.isLeaf = true := h first (hwrites ▸ List.mem_cons_self)
      rw [Json.writeAll_cons, Json.writeAt_object_nil hleaf, ← Json.writeAll_cons]

/-- The leaves of a document make the document again in whatever order they are written, up to the
order of members. -/
theorem rebuild_perm {document : Json} (hform : document.WellFormed)
    (hplain : document.HasPlainKeys) {entries : Entries} (hperm : entries.Perm (flatten document)) :
    (rebuild entries).same document = true := by
  have hwrites : ∀ write, write ∈ entries.writes ↔ document.HasLeaf write.1 write.2 := by
    intro write
    calc
      write ∈ entries.writes ↔ write ∈ Entries.writes (flattenAt "" document) :=
        (hperm.map _).mem_iff
      _ ↔ ∃ steps, write.1 = tokenize "" ++ steps ∧ document.HasLeaf steps write.2 :=
        mem_writes_flattenAt hform hplain Path.closed_empty
      _ ↔ document.HasLeaf write.1 write.2 := by simp [tokenize, scanPath]
  have hne : entries.writes ≠ [] := by
    obtain ⟨steps, leaf, hleaf⟩ := document.exists_hasLeaf
    exact List.ne_nil_of_mem ((hwrites (steps, leaf)).2 hleaf)
  have hstart :=
    rebuild_eq_writeAll_null (fun write hwrite => ((hwrites write).1 hwrite).isLeaf) hne
  obtain ⟨hwithin, hfound⟩ :=
    (Json.Within.absent document).writeAll fun write hwrite => (hwrites write).1 hwrite
  rw [hstart]
  exact hwithin.same hform fun steps leaf hleaf => hfound _ ((hwrites (steps, leaf)).2 hleaf)

/-- Rows of different shapes, with an empty container among the items. -/
def rowsDocument : Json :=
  .object [("rows", .array [.array [.bool true, .object []], .object [("id", .string "x")]]),
    ("n", .null)]

/-- The leaves of `rowsDocument` from the last one to the first. -/
def turnedRows : Entries :=
  [("n", .null), ("rows[1].id", .string "x"), ("rows[0][1]", .object []),
    ("rows[0][0]", .bool true)]

theorem rebuild_perm_turnedRows :
    rowsDocument.WellFormed ∧ rowsDocument.HasPlainKeys ∧
      turnedRows.Perm (flatten rowsDocument) ∧ (rebuild turnedRows).same rowsDocument = true := by
  have hform : rowsDocument.WellFormed := by
    simp [rowsDocument, Json.WellFormed, Json.Everywhere, Json.EverywhereItems,
      Json.EverywhereMembers, Json.IsTidy]
  have hplain : rowsDocument.HasPlainKeys := by
    simp only [rowsDocument, Json.HasPlainKeys, Json.Everywhere, Json.EverywhereItems,
      Json.EverywhereMembers, Json.KeysArePlain]
    decide
  have hturned : turnedRows = (flatten rowsDocument).reverse := rfl
  have hperm : turnedRows.Perm (flatten rowsDocument) := hturned ▸ List.reverse_perm _
  exact ⟨hform, hplain, hperm, rebuild_perm hform hplain hperm⟩

end Conform
