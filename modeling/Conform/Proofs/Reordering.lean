import Conform.Proofs.Documents
import Mathlib.Data.List.Forall2

/-!
# Documents up to the order of members

The members of an object are listed in some order, which does not count when documents are compared.
This file defines:

* `Shuffled`: two lists of members with related values under the same keys, in whatever orders;
* `Json.Reordered`: well-formed documents that differ in the order of members at most, at any depth;

and proves that such documents are equal, and that no document is equal to one and not to the other.
-/

namespace Conform

/-! ## Members in another order -/

theorem Json.lookup_perm {α : Type} {members others : List (String × α)}
    (hkeys : (members.map (·.1)).Nodup) (h : members.Perm others) (key : String) :
    lookup key members = lookup key others := by
  have hkeys' : (others.map (·.1)).Nodup := (h.map (·.1)).nodup_iff.1 hkeys
  cases hlookup : lookup key members with
  | some value => exact (lookup_of_mem hkeys' (h.mem_iff.1 (lookup_mem hlookup))).symm
  | none =>
      rw [lookup_eq_none_iff] at hlookup
      refine (lookup_eq_none_iff.2 fun hmem => hlookup ?_).symm
      exact (h.map (·.1)).mem_iff.2 hmem

/-- Two lists of members under the same keys, in whatever orders, with related values. -/
def Shuffled {α β : Type} (R : α → β → Prop) (members : List (String × α))
    (others : List (String × β)) : Prop :=
  ∃ moved, Memberwise R members moved ∧ moved.Perm others

namespace Shuffled

variable {α β : Type} {R : α → β → Prop} {members : List (String × α)}
  {others : List (String × β)}

theorem keys_perm (h : Shuffled R members others) :
    (members.map (·.1)).Perm (others.map (·.1)) := by
  rcases h with ⟨moved, hmoved, hperm⟩
  rw [hmoved.keys_eq]
  exact hperm.map _

theorem length_eq (h : Shuffled R members others) : members.length = others.length := by
  simpa using h.keys_perm.length_eq

theorem append {members' : List (String × α)} {others' : List (String × β)}
    (h : Shuffled R members others) (h' : Shuffled R members' others') :
    Shuffled R (members ++ members') (others ++ others') := by
  rcases h with ⟨moved, hmoved, hperm⟩
  rcases h' with ⟨moved', hmoved', hperm'⟩
  exact ⟨moved ++ moved', hmoved.append hmoved', hperm.append hperm'⟩

theorem filter (h : Shuffled R members others) (keeps : String → Bool) :
    Shuffled R (members.filter (keeps ·.1)) (others.filter (keeps ·.1)) := by
  rcases h with ⟨moved, hmoved, hperm⟩
  exact ⟨_, hmoved.filter keeps, hperm.filter _⟩

theorem any_eq (h : Shuffled R members others) {p : String × α → Bool} {q : String × β → Bool}
    (hpq : ∀ key a b, R a b → p (key, a) = q (key, b)) : members.any p = others.any q := by
  rcases h with ⟨moved, hmoved, hperm⟩
  rw [hmoved.any_eq hpq, hperm.any_eq]

/-- Values under one key are related where every key is listed once. -/
theorem lookup (h : Shuffled R members others) (hkeys : (members.map (·.1)).Nodup)
    (key : String) : Option.Rel R (Json.lookup key members) (Json.lookup key others) := by
  rcases h with ⟨moved, hmoved, hperm⟩
  rw [hmoved.keys_eq] at hkeys
  rw [← Json.lookup_perm hkeys hperm key]
  exact hmoved.lookup key

theorem exists_of_mem (h : Shuffled R members others) {key : String} {b : β}
    (hmem : (key, b) ∈ others) : ∃ a, (key, a) ∈ members ∧ R a b := by
  rcases h with ⟨moved, hmoved, hperm⟩
  exact hmoved.exists_of_mem (hperm.mem_iff.2 hmem)

end Shuffled

/-! ## Documents -/

/-- Every item on the right has one on the left. -/
theorem exists_of_forall₂ {α β : Type} {R : α → β → Prop} {items : List α} {others : List β}
    (h : List.Forall₂ R items others) {b : β} (hmem : b ∈ others) : ∃ a ∈ items, R a b := by
  induction h with
  | nil => exact absurd hmem List.not_mem_nil
  | cons hab _ ih =>
      rcases List.mem_cons.1 hmem with rfl | hmem
      · exact ⟨_, List.mem_cons_self, hab⟩
      · obtain ⟨a, ha, hR⟩ := ih hmem
        exact ⟨a, List.mem_cons_of_mem _ ha, hR⟩

theorem forall₂_imp_of_mem {α β : Type} {R S : α → β → Prop} {items : List α} {others : List β}
    (h : List.Forall₂ R items others) (hRS : ∀ item ∈ items, ∀ other, R item other → S item other) :
    List.Forall₂ S items others := by
  have hboth := (List.forall₂_and_left items others).2 ⟨hRS, h⟩
  exact hboth.imp fun _ other hitem => hitem.1 other hitem.2

namespace Json

/-- Well-formed documents that differ in the order of members at most. -/
inductive Reordered : Json → Json → Prop
  | null : Reordered .null .null
  | bool (b : Bool) : Reordered (.bool b) (.bool b)
  | number (n : Number) : Reordered (.number n) (.number n)
  | string (s : String) : Reordered (.string s) (.string s)
  | array {items others : List Json} (hlength : items.length ≤ 2 ^ 64)
      (h : List.Forall₂ Reordered items others) : Reordered (.array items) (.array others)
  | object {members moved others : List (String × Json)} (hkeys : (members.map (·.1)).Nodup)
      (h : Memberwise Reordered members moved) (hperm : moved.Perm others) :
      Reordered (.object members) (.object others)

namespace Reordered

theorem refl {document : Json} (h : document.WellFormed) : document.Reordered document := by
  induction document using Json.induct with
  | null => exact null
  | bool b => exact bool b
  | number n => exact number n
  | string s => exact string s
  | array items ih =>
      rcases everywhere_array.1 h with ⟨hlength, hitems⟩
      exact array hlength (List.forall₂_same.2 fun item hitem => ih item hitem (hitems item hitem))
  | object members ih =>
      rcases everywhere_object.1 h with ⟨hkeys, hmembers⟩
      exact object hkeys (.refl fun member hmember => ih member hmember (hmembers member hmember))
        (.refl members)

theorem of_shuffled {members others : List (String × Json)} (hkeys : (members.map (·.1)).Nodup)
    (h : Shuffled Reordered members others) : (Json.object members).Reordered (.object others) := by
  rcases h with ⟨moved, hmoved, hperm⟩
  exact object hkeys hmoved hperm

/-- Both documents are well-formed. -/
theorem wellFormed {a b : Json} (h : a.Reordered b) : a.WellFormed ∧ b.WellFormed := by
  induction a using Json.induct generalizing b with
  | null | bool _ | number _ | string _ =>
      cases h
      exact ⟨trivial, trivial⟩
  | array items ih =>
      cases h with
      | @array _ others hlength h =>
          have hlength' : others.length ≤ 2 ^ 64 := h.length_eq ▸ hlength
          refine ⟨everywhere_array.2 ⟨hlength, ?_⟩, everywhere_array.2 ⟨hlength', ?_⟩⟩
          · intro item hitem
            obtain ⟨other, -, hother⟩ := exists_of_forall₂ h.flip hitem
            exact (ih item hitem hother).1
          · intro other hother
            obtain ⟨item, hitem, hreordered⟩ := exists_of_forall₂ h hother
            exact (ih item hitem hreordered).2
  | object members ih =>
      cases h with
      | @object _ moved others hkeys h hperm =>
          have hkeys' : (others.map (·.1)).Nodup :=
            (Shuffled.keys_perm ⟨moved, h, hperm⟩).nodup_iff.1 hkeys
          refine ⟨everywhere_object.2 ⟨hkeys, ?_⟩, everywhere_object.2 ⟨hkeys', ?_⟩⟩
          · rintro ⟨key, a⟩ hmember
            obtain ⟨b, -, hb⟩ := h.flip.exists_of_mem hmember
            exact (ih (key, a) hmember hb).1
          · rintro ⟨key, b⟩ hother
            obtain ⟨a, hmember, ha⟩ := Shuffled.exists_of_mem ⟨moved, h, hperm⟩ hother
            exact (ih (key, a) hmember ha).2

end Reordered

/-! ## Equality -/

theorem Number.same_self (n : Number) : n.same n = true := by
  cases n with
  | integer n _ => simp [Number.same]
  | float x => exact Binary64.sameValue_iff.2 rfl

theorem sameItems_iff {items others : List Json} :
    sameItems items others = true ↔ List.Forall₂ (fun a b => a.same b = true) items others := by
  induction items generalizing others with
  | nil => cases others <;> simp [sameItems]
  | cons item rest ih => cases others <;> simp [sameItems, ih]

theorem sameMembers_iff {members others : List (String × Json)} :
    sameMembers members others = true ↔
      ∀ member ∈ members, ∃ b ∈ lookup member.1 others, member.2.same b = true := by
  induction members with
  | nil => simp [sameMembers]
  | cons member rest ih =>
      rcases member with ⟨key, a⟩
      rw [List.forall_mem_cons, ← ih, sameMembers, Bool.and_eq_true]
      cases lookup key others <;> simp

namespace Reordered

/-- Documents that differ in the order of members at most are equal. -/
theorem same {a b : Json} (h : a.Reordered b) : a.same b = true := by
  induction a using Json.induct generalizing b with
  | null =>
      cases h
      rfl
  | bool b =>
      cases h
      simp [Json.same]
  | number n =>
      cases h
      exact n.same_self
  | string s =>
      cases h
      simp [Json.same]
  | array items ih =>
      cases h with
      | array _ h =>
          exact sameItems_iff.2 (forall₂_imp_of_mem h fun item hitem _ => ih item hitem)
  | object members ih =>
      cases h with
      | @object _ moved others hkeys h hperm =>
          have hshuffled : Shuffled Reordered members others := ⟨moved, h, hperm⟩
          simp only [Json.same, hshuffled.length_eq, beq_self_eq_true, Bool.true_and]
          refine sameMembers_iff.2 fun member hmember => ?_
          have hlookup := hshuffled.lookup hkeys member.1
          rw [lookup_of_mem hkeys hmember] at hlookup
          generalize lookup member.1 others = found at hlookup
          cases hlookup with
          | some hb => exact ⟨_, rfl, ih member hmember hb⟩

/-- Items are compared one by one. -/
theorem sameItems_congr {items firsts others : List Json}
    (hparts : ∀ item ∈ items, ∀ a b : Json, a.Reordered b → item.same a = item.same b)
    (h : List.Forall₂ Reordered firsts others) :
    sameItems items firsts = sameItems items others := by
  induction items generalizing firsts others with
  | nil => cases h <;> rfl
  | cons item rest ih =>
      cases h with
      | nil => rfl
      | cons hfirst hrest =>
          have hitems := ih (fun other hother => hparts other (List.mem_cons_of_mem _ hother)) hrest
          simp only [sameItems, hparts item List.mem_cons_self _ _ hfirst, hitems]

/-- No document is equal to one of them and not to the other. -/
theorem same_congr (document : Json) {a b : Json} (h : a.Reordered b) :
    document.same a = document.same b := by
  induction document using Json.induct generalizing a b with
  | null | bool _ | number _ | string _ => cases h <;> rfl
  | array items ih =>
      cases h with
      | null | bool _ | number _ | string _ | object _ _ _ => rfl
      | array _ h =>
          simp only [Json.same]
          exact sameItems_congr (fun item hitem _ _ => ih item hitem) h
  | object members ih =>
      cases h with
      | null | bool _ | number _ | string _ | array _ _ => rfl
      | @object firsts moved others hkeys h hperm =>
          have hshuffled : Shuffled Reordered firsts others := ⟨moved, h, hperm⟩
          have hmembers : sameMembers members firsts = sameMembers members others := by
            rw [Bool.eq_iff_iff, sameMembers_iff, sameMembers_iff]
            refine forall₂_congr fun member hmember => ?_
            have hlookup := hshuffled.lookup hkeys member.1
            generalize lookup member.1 firsts = found at hlookup
            generalize lookup member.1 others = found' at hlookup
            cases hlookup with
            | none => simp
            | some hb => simp [ih member hmember hb]
          simp only [Json.same, hshuffled.length_eq, hmembers]

end Reordered

end Json

end Conform
