import Conform.Json.Basic
import Mathlib.Data.List.Basic
import Mathlib.Data.List.Nodup

/-!
# Induction on documents

A document is a tree, and what is said of it is mostly said of every part of it.  This file defines:

* `Memberwise`: two lists of members with related values under the same keys;
* `Json.induct`: induction over the parts of a document;
* `Json.Everywhere`: a property that a document and all of its parts have;
* `Json.WellFormed`: what every document has that is read from a text or built by insertion, each
  key listed once and all item numbers of 64 bits;

together with the laws of `lookup` and `insert` on lists of members.
-/

namespace Conform

namespace Json

/-! ## Members -/

theorem lookup_append {key : String} (first second : List (String × α)) :
    lookup key (first ++ second) = (lookup key first).or (lookup key second) := by
  induction first with
  | nil => rfl
  | cons member rest ih =>
      rcases member with ⟨k, v⟩
      by_cases hk : k = key
      · simp [lookup, hk]
      · simpa [lookup, hk] using ih

/-- A key has no value exactly when no member has it. -/
theorem lookup_eq_none_iff {key : String} {members : List (String × α)} :
    lookup key members = none ↔ key ∉ members.map (·.1) := by
  induction members with
  | nil => simp
  | cons member rest ih =>
      rcases member with ⟨k, v⟩
      by_cases hk : k = key
      · simp [lookup, hk]
      · have hk' : key ≠ k := fun h => hk h.symm
        simpa [lookup, hk, hk'] using ih

theorem exists_lookup_of_mem_keys {key : String} {members : List (String × α)}
    (h : key ∈ members.map (·.1)) : ∃ value, lookup key members = some value := by
  cases hlookup : lookup key members with
  | some value => exact ⟨value, rfl⟩
  | none => exact absurd h (lookup_eq_none_iff.1 hlookup)

theorem lookup_mem {key : String} {value : α} {members : List (String × α)}
    (h : lookup key members = some value) : (key, value) ∈ members := by
  induction members with
  | nil => simp at h
  | cons member rest ih =>
      rcases member with ⟨k, v⟩
      by_cases hk : k = key
      · have hv : v = value := by simpa [lookup, hk] using h
        rw [hk, hv]
        exact List.mem_cons_self
      · have hrest : lookup key rest = some value := by simpa [lookup, hk] using h
        exact List.mem_cons_of_mem _ (ih hrest)

/-- A member is found under its key where every key is listed once. -/
theorem lookup_of_mem {key : String} {value : α} {members : List (String × α)}
    (hkeys : (members.map (·.1)).Nodup) (h : (key, value) ∈ members) :
    lookup key members = some value := by
  induction members with
  | nil => exact absurd h List.not_mem_nil
  | cons member rest ih =>
      rcases member with ⟨k, v⟩
      have hnodup := List.nodup_cons.1 hkeys
      rcases List.mem_cons.1 h with heq | hmem
      · cases heq
        simp [lookup]
      · have hk : k ≠ key := by
          rintro rfl
          exact hnodup.1 (List.mem_map.2 ⟨_, hmem, rfl⟩)
        have hrest := ih hnodup.2 hmem
        simpa [lookup, hk] using hrest

/-- A filter that looks at keys alone keeps what stands under a key that it lets pass. -/
theorem lookup_filter {keeps : String → Bool} {key : String} (h : keeps key = true)
    (members : List (String × α)) :
    lookup key (members.filter (keeps ·.1)) = lookup key members := by
  induction members with
  | nil => rfl
  | cons member rest ih =>
      rcases member with ⟨k, v⟩
      by_cases hk : k = key
      · subst hk
        simp [lookup, h]
      · cases hkeeps : keeps k with
        | true => simpa [lookup, hk, hkeeps] using ih
        | false => simpa [lookup, hk, hkeeps] using ih

/-- A new key goes to the end. -/
theorem insert_of_lookup_eq_none {key : String} {members : List (String × α)}
    (h : lookup key members = none) (value : α) :
    insert key value members = members ++ [(key, value)] := by
  induction members with
  | nil => rfl
  | cons member rest ih =>
      rcases member with ⟨k, v⟩
      by_cases hk : k = key
      · simp [lookup, hk] at h
      · have hrest : lookup key rest = none := by simpa [lookup, hk] using h
        simp [insert, hk, ih hrest]

/-- Of two values under one key the later stands. -/
theorem insert_insert_self (key : String) (first second : α) (members : List (String × α)) :
    insert key second (insert key first members) = insert key second members := by
  induction members with
  | nil => simp [insert]
  | cons member rest ih =>
      rcases member with ⟨k, v⟩
      by_cases hk : k = key
      · simp [insert, hk]
      · simp [insert, hk, ih]

theorem mem_keys_insert {key other : String} {value : α} {members : List (String × α)} :
    other ∈ (insert key value members).map (·.1) ↔ other = key ∨ other ∈ members.map (·.1) := by
  induction members with
  | nil => simp [insert]
  | cons member rest ih =>
      rcases member with ⟨k, v⟩
      by_cases hk : k = key
      · simp [insert, hk]
      · rw [insert, if_neg hk, List.map_cons, List.mem_cons, ih, List.map_cons, List.mem_cons,
          or_left_comm]

/-- A list that has no key twice has none twice after an insertion. -/
theorem nodup_keys_insert {members : List (String × α)} (h : (members.map (·.1)).Nodup)
    (key : String) (value : α) : ((insert key value members).map (·.1)).Nodup := by
  induction members with
  | nil => exact List.nodup_singleton key
  | cons member rest ih =>
      rcases member with ⟨k, v⟩
      obtain ⟨hnew, hrest⟩ := List.nodup_cons.1 h
      by_cases hk : k = key
      · rw [insert, if_pos hk]
        exact h
      · rw [insert, if_neg hk]
        refine List.nodup_cons.2 ⟨fun hmem => ?_, ih hrest⟩
        rcases mem_keys_insert.1 hmem with heq | hmem
        · exact hk heq
        · exact hnew hmem

end Json

/-! ## Members side by side -/

/-- Two lists of members under the same keys, in the same order, with related values. -/
inductive Memberwise {α β : Type} (R : α → β → Prop) :
    List (String × α) → List (String × β) → Prop
  | nil : Memberwise R [] []
  | cons {key : String} {a : α} {b : β} {rest : List (String × α)} {others : List (String × β)}
      (h : R a b) (hrest : Memberwise R rest others) :
      Memberwise R ((key, a) :: rest) ((key, b) :: others)

namespace Memberwise

variable {α β : Type} {R : α → β → Prop}

theorem keys_eq {members : List (String × α)} {others : List (String × β)}
    (h : Memberwise R members others) : members.map (·.1) = others.map (·.1) := by
  induction h with
  | nil => rfl
  | cons _ _ ih => rw [List.map_cons, List.map_cons, ih]

theorem mono {S : α → β → Prop} {members : List (String × α)} {others : List (String × β)}
    (h : Memberwise R members others)
    (hRS : ∀ member ∈ members, ∀ b, R member.2 b → S member.2 b) :
    Memberwise S members others := by
  induction h with
  | nil => exact nil
  | cons hab _ ih =>
      exact cons (hRS _ List.mem_cons_self _ hab)
        (ih fun member hmember => hRS member (List.mem_cons_of_mem _ hmember))

theorem refl {R : α → α → Prop} {members : List (String × α)}
    (h : ∀ member ∈ members, R member.2 member.2) : Memberwise R members members := by
  induction members with
  | nil => exact nil
  | cons member rest ih =>
      exact cons (h member List.mem_cons_self)
        (ih fun other hother => h other (List.mem_cons_of_mem _ hother))

theorem flip {members : List (String × α)} {others : List (String × β)}
    (h : Memberwise R members others) : Memberwise (fun b a => R a b) others members := by
  induction h with
  | nil => exact nil
  | cons hab _ ih => exact cons hab ih

theorem append {first second : List (String × α)} {first' second' : List (String × β)}
    (h : Memberwise R first first') (hsecond : Memberwise R second second') :
    Memberwise R (first ++ second) (first' ++ second') := by
  induction h with
  | nil => exact hsecond
  | cons hab _ ih => exact cons hab ih

/-- A filter that looks at keys alone keeps members on both sides. -/
theorem filter {members : List (String × α)} {others : List (String × β)}
    (h : Memberwise R members others) (keeps : String → Bool) :
    Memberwise R (members.filter (keeps ·.1)) (others.filter (keeps ·.1)) := by
  induction h with
  | nil => exact nil
  | @cons key a b rest others hab _ ih =>
      cases hkeeps : keeps key with
      | true => simpa [hkeeps] using cons hab ih
      | false => simpa [hkeeps] using ih

theorem any_eq {members : List (String × α)} {others : List (String × β)}
    (h : Memberwise R members others) {p : String × α → Bool} {q : String × β → Bool}
    (hpq : ∀ key a b, R a b → p (key, a) = q (key, b)) : members.any p = others.any q := by
  induction h with
  | nil => rfl
  | cons hab _ ih => rw [List.any_cons, List.any_cons, hpq _ _ _ hab, ih]

theorem lookup {members : List (String × α)} {others : List (String × β)}
    (h : Memberwise R members others) (key : String) :
    Option.Rel R (Json.lookup key members) (Json.lookup key others) := by
  induction h with
  | nil => exact .none
  | @cons k a b rest others hab _ ih =>
      by_cases hk : k = key
      · simpa [Json.lookup, hk] using Option.Rel.some hab
      · simpa [Json.lookup, hk] using ih

/-- Two lists beside a third are each beside a fourth, when their members are. -/
theorem exists_corner {γ δ : Type} {S : α → γ → Prop} {T : β → δ → Prop} {U : γ → δ → Prop}
    {members : List (String × α)} {others : List (String × β)} {thirds : List (String × γ)}
    (h : Memberwise R members others) (hthirds : Memberwise S members thirds)
    (hparts : ∀ member ∈ members, ∀ b c, R member.2 b → S member.2 c → ∃ d, T b d ∧ U c d) :
    ∃ fourths, Memberwise T others fourths ∧ Memberwise U thirds fourths := by
  induction h generalizing thirds with
  | nil =>
      cases hthirds
      exact ⟨[], nil, nil⟩
  | @cons key a b _ _ hab _ ih =>
      cases hthirds with
      | cons hac hrest =>
          obtain ⟨d, hbd, hcd⟩ := hparts (key, a) List.mem_cons_self b _ hab hac
          obtain ⟨fourths, hothers, hthirds⟩ :=
            ih hrest fun member hmember => hparts member (List.mem_cons_of_mem _ hmember)
          exact ⟨(key, d) :: fourths, cons hbd hothers, cons hcd hthirds⟩

/-- Members in another order are beside those of the other list in that order. -/
theorem exists_perm {members moved : List (String × α)} {others : List (String × β)}
    (hperm : members.Perm moved) (h : Memberwise R moved others) :
    ∃ moved', Memberwise R members moved' ∧ moved'.Perm others := by
  induction hperm generalizing others with
  | nil =>
      cases h
      exact ⟨[], nil, .refl []⟩
  | cons _ _ ih =>
      cases h with
      | cons hab hrest =>
          obtain ⟨moved', hmoved, hperm⟩ := ih hrest
          exact ⟨_ :: moved', cons hab hmoved, hperm.cons _⟩
  | swap _ _ _ =>
      cases h with
      | cons hab hrest =>
          cases hrest with
          | cons hab' hrest => exact ⟨_, cons hab' (cons hab hrest), .swap _ _ _⟩
  | trans _ _ ih ih' =>
      obtain ⟨between, hbetween, hperm'⟩ := ih' h
      obtain ⟨moved', hmoved, hperm⟩ := ih hbetween
      exact ⟨moved', hmoved, hperm.trans hperm'⟩

/-- Every member on the right has one on the left. -/
theorem exists_of_mem {members : List (String × α)} {others : List (String × β)}
    (h : Memberwise R members others) {key : String} {b : β} (hmem : (key, b) ∈ others) :
    ∃ a, (key, a) ∈ members ∧ R a b := by
  induction h with
  | nil => exact absurd hmem List.not_mem_nil
  | cons hab _ ih =>
      rcases List.mem_cons.1 hmem with heq | hmem
      · cases heq
        exact ⟨_, List.mem_cons_self, hab⟩
      · obtain ⟨a, ha, hR⟩ := ih hmem
        exact ⟨a, List.mem_cons_of_mem _ ha, hR⟩

end Memberwise

namespace Json

/-! ## Induction -/

/-- Induction over the parts of a document. -/
@[elab_as_elim]
theorem induct {motive : Json → Prop} (null : motive .null) (bool : ∀ b, motive (.bool b))
    (number : ∀ n, motive (.number n)) (string : ∀ s, motive (.string s))
    (array : ∀ items, (∀ item ∈ items, motive item) → motive (.array items))
    (object : ∀ members, (∀ member ∈ members, motive member.2) → motive (.object members))
    (document : Json) : motive document := by
  refine @Json.rec motive (fun items => ∀ item ∈ items, motive item)
    (fun members => ∀ member ∈ members, motive member.2) (fun member => motive member.2)
    null bool number string array object ?_ ?_ ?_ ?_ ?_ document
  · exact fun item hitem => absurd hitem List.not_mem_nil
  · intro item rest hfirst hrest other hother
    rcases List.mem_cons.1 hother with rfl | hmem
    · exact hfirst
    · exact hrest other hmem
  · exact fun member hmember => absurd hmember List.not_mem_nil
  · intro member rest hfirst hrest other hother
    rcases List.mem_cons.1 hother with rfl | hmem
    · exact hfirst
    · exact hrest other hmem
  · exact fun _ _ hvalue => hvalue

/-! ## Properties of all parts -/

mutual

/-- A property that a document and all of its parts have. -/
def Everywhere (p : Json → Prop) : Json → Prop
  | null => p null
  | bool b => p (bool b)
  | number n => p (number n)
  | string s => p (string s)
  | array items => p (array items) ∧ EverywhereItems p items
  | object members => p (object members) ∧ EverywhereMembers p members

/-- A property that items and all of their parts have. -/
def EverywhereItems (p : Json → Prop) : List Json → Prop
  | [] => True
  | item :: rest => item.Everywhere p ∧ EverywhereItems p rest

/-- A property that the values of members and all of their parts have. -/
def EverywhereMembers (p : Json → Prop) : List (String × Json) → Prop
  | [] => True
  | (_, value) :: rest => value.Everywhere p ∧ EverywhereMembers p rest

end

theorem everywhereItems_iff {p : Json → Prop} {items : List Json} :
    EverywhereItems p items ↔ ∀ item ∈ items, item.Everywhere p := by
  induction items with
  | nil => simp [EverywhereItems]
  | cons item rest ih => simp [EverywhereItems, ih]

theorem everywhereMembers_iff {p : Json → Prop} {members : List (String × Json)} :
    EverywhereMembers p members ↔ ∀ member ∈ members, member.2.Everywhere p := by
  induction members with
  | nil => simp [EverywhereMembers]
  | cons member rest ih =>
      rcases member with ⟨key, value⟩
      simp [EverywhereMembers, ih]

theorem everywhere_array {p : Json → Prop} {items : List Json} :
    (array items).Everywhere p ↔ p (.array items) ∧ ∀ item ∈ items, item.Everywhere p := by
  rw [Everywhere, everywhereItems_iff]

theorem everywhere_object {p : Json → Prop} {members : List (String × Json)} :
    (object members).Everywhere p ↔
      p (.object members) ∧ ∀ member ∈ members, member.2.Everywhere p := by
  rw [Everywhere, everywhereMembers_iff]

/-- An object lists each key once, and the items of an array can be numbered by 64 bits. -/
def IsTidy : Json → Prop
  | array items => items.length ≤ 2 ^ 64
  | object members => (members.map (·.1)).Nodup
  | null | bool _ | number _ | string _ => True

/-- Every object lists each key once, and the items of every array can be numbered by 64 bits. -/
def WellFormed (document : Json) : Prop := document.Everywhere IsTidy

/-- The members of a well-formed object have keys of their own and well-formed values. -/
theorem wellFormed_of_members? {document : Json} (h : document.WellFormed)
    {members : List (String × Json)} (hmembers : members ∈ document.members?) :
    (members.map (·.1)).Nodup ∧ ∀ member ∈ members, member.2.WellFormed := by
  cases document with
  | object _ =>
      cases hmembers
      exact everywhere_object.1 h
  | null | bool _ | number _ | string _ | array _ => exact absurd hmembers (by simp [members?])

end Json

end Conform
