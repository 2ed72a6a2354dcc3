import Conform.Proofs.Documents
import Conform.Proofs.Reshaping
import Mathlib.Data.List.Sort
import Mathlib.Data.String.Basic

/-!
# Registries that grow

A registry is asked for new types, one after the other, and refuses some of them.  Names and second
names share one space of keys, in which a key never comes to mean another type.  This file defines:

* `FieldType.entries`: the entries under which a type is listed;
* `Registry.Answers`: everything that can become of a registry that is asked for a type;
* `Registry.Sound`: the types of a registry are listed under all of their keys, and under no others;
* `Registry.Extends` and `Registry.LeadsTo`: what is found stays found, and requests in a row;
* `ByteOrder`: the order of texts by their encoded bytes.

The main statement is `leadsTo_keeps`.
-/

namespace Conform

/-! ## Keys -/

theorem typeKey_typeKey (name : String) : typeKey (typeKey name) = typeKey name := by
  have htrimmed : IsTrimmed (trim name).toList := by
    rw [trim, String.toList_ofList]
    exact isTrimmed_trimChars name.toList
  have hkept : trim (typeKey name) = typeKey name := by
    have hchars : trimChars (typeKey name).toList = (typeKey name).toList :=
      htrimmed.toLower.trimChars_eq
    rw [trim, hchars, String.ofList_toList]
  calc
    typeKey (typeKey name) = toLower (typeKey name) := by rw [typeKey, hkept]
    _ = typeKey name := toLower_toLower (trim name)

/-- A second key says more than the key that goes before it, and is a key itself. -/
theorem of_secondKey? {registration : Registration} {key second : String}
    (h : registration.secondKey? key = some second) :
    second ≠ key ∧ typeKey second = second := by
  obtain ⟨hsecond, hkept⟩ := Option.filter_eq_some_iff.1 h
  obtain ⟨name, -, rfl⟩ := Option.map_eq_some_iff.1 hsecond
  have hne : typeKey name ≠ key := by
    intro heq
    simp [heq] at hkept
  exact ⟨hne, typeKey_typeKey name⟩

/-- A second name that is not blank leads to the key or to the second key. -/
theorem secondKey?_cases {registration : Registration} {name : String} (key : String)
    (hname : registration.secondName = some name) (hblank : trim name ≠ "") :
    typeKey name = key ∨ registration.secondKey? key = some (typeKey name) := by
  by_cases hkey : typeKey name = key
  · exact Or.inl hkey
  · have hne : typeKey name ≠ "" := fun h => hblank (toLower_eq_empty_iff.1 h)
    refine Or.inr (Option.filter_eq_some_iff.2 ⟨?_, ?_⟩)
    · rw [hname, Option.map_some]
    · simp [hne, hkey]

/-! ## One request -/

/-- The keys of a type: its aliases and its own one. -/
def FieldType.keys (type : FieldType) : List String := type.info.aliases ++ [type.info.key]

/-- The entries under which a type is listed. -/
def FieldType.entries (type : FieldType) : List (String × FieldType) :=
  type.keys.map fun key => (key, type)

namespace FieldType

variable {type : FieldType} {key : String}

theorem mem_keys : key ∈ type.keys ↔ key = type.info.key ∨ key ∈ type.info.aliases := by
  rw [keys, List.mem_append, List.mem_singleton, or_comm]

theorem mem_entries {other : FieldType} :
    (key, other) ∈ type.entries ↔ other = type ∧ key ∈ type.keys := by
  rw [entries, List.mem_map]
  constructor
  · rintro ⟨_, hkey, heq⟩
    cases heq
    exact ⟨rfl, hkey⟩
  · rintro ⟨rfl, hkey⟩
    exact ⟨key, hkey, rfl⟩

theorem map_fst_entries (type : FieldType) : type.entries.map (·.1) = type.keys := by
  simp [entries, List.map_map, Function.comp_def]

end FieldType

namespace Registry

/-- Everything that can become of a registry that is asked for a type: it stays as it is for the
first of four reasons that applies, or it lists the type under new keys alone. -/
inductive Answers (registry : Registry) (name : String) (registration : Registration) :
    Except SchemaError FieldType × Registry → Prop
  | nameless (hname : trim name = "") :
      Answers registry name registration (.error .namelessType, registry)
  | taken (hname : trim name ≠ "") (htaken : (registry.find? (typeKey name)).isSome = true) :
      Answers registry name registration (.error (.duplicateType (trim name)), registry)
  | ruleless (hname : trim name ≠ "") (hfree : registry.find? (typeKey name) = none)
      (hrule : registration.rule = none) :
      Answers registry name registration (.error (.missingRule (trim name)), registry)
  | secondTaken {second : String} {rule : Rule} (hname : trim name ≠ "")
      (hfree : registry.find? (typeKey name) = none) (hrule : registration.rule = some rule)
      (hsecond : registration.secondKey? (typeKey name) = some second)
      (htaken : (registry.find? second).isSome = true) :
      Answers registry name registration (.error (.duplicateType second), registry)
  | listed {rule : Rule} (hname : trim name ≠ "") (hfree : registry.find? (typeKey name) = none)
      (hrule : registration.rule = some rule)
      (hsecond : ∀ second ∈ registration.secondKey? (typeKey name),
        registry.find? second = none) :
      Answers registry name registration (.ok (registration.toType (trim name) rule),
        ⟨registry.entries ++ (registration.toType (trim name) rule).entries⟩)

variable {registry : Registry} {name : String} {registration : Registration}

/-- Under a key that is free a type is listed at the end. -/
theorem insert_of_free {key : String} (h : registry.find? key = none) (type : FieldType) :
    registry.insert key type = ⟨registry.entries ++ [(key, type)]⟩ := by
  unfold insert
  rw [Json.insert_of_lookup_eq_none h]

/-- Two free keys stay free of each other. -/
theorem insert_insert_of_free {key second : String} (hne : second ≠ key)
    (hkey : registry.find? key = none) (hsecond : registry.find? second = none)
    (type : FieldType) :
    (registry.insert second type).insert key type =
      ⟨registry.entries ++ [(second, type), (key, type)]⟩ := by
  have hfree : (registry.insert second type).find? key = none :=
    (Json.lookup_insert_of_ne hne.symm type registry.entries).trans hkey
  rw [insert_of_free hfree, insert_of_free hsecond]
  simp

theorem demandFree_bind {α : Type} (registry : Registry) (key shown : String)
    (next : Unit → Registering α) :
    StateT.run (ExceptT.run (demandFree key shown >>= next)) registry =
      if (registry.find? key).isSome = true then (.error (.duplicateType shown), registry)
      else StateT.run (ExceptT.run (next ())) registry := by
  change StateT.run (ExceptT.run ((if (registry.find? key).isSome = true then
    throw (.duplicateType shown) else pure ()) >>= next)) registry = _
  split
  · rfl
  · rfl

theorem answers_answer (registry : Registry) (name : String) (registration : Registration) :
    registry.Answers name registration (registry.answer name registration) := by
  unfold answer registerType
  by_cases hname : trim name = ""
  · simp only [hname]
    exact .nameless hname
  have hempty : (trim name).isEmpty = false := by simp [hname]
  have hkey : toLower (trim name) = typeKey name := rfl
  simp only [hempty, hkey, Bool.false_eq_true, if_false, demandFree_bind]
  -- From here on each question is asked of the registry as it was given.
  cases hfree : registry.find? (typeKey name) with
  | some old => exact .taken hname (by rw [hfree, Option.isSome_some])
  | none =>
      cases hrule : registration.rule with
      | none => exact .ruleless hname hfree hrule
      | some rule =>
          have htype : (registration.toType (trim name) rule).entries =
              ((registration.secondKey? (typeKey name)).toList ++ [typeKey name]).map
                fun key => (key, registration.toType (trim name) rule) := rfl
          cases hsecond : registration.secondKey? (typeKey name) with
          | none =>
              have hlisted := Answers.listed hname hfree hrule (by simp [hsecond])
              rw [htype, hsecond] at hlisted
              have hnext := insert_of_free hfree (registration.toType (trim name) rule)
              simp only [Option.toList_none, List.nil_append, List.map_cons, List.map_nil,
                ← hnext] at hlisted
              exact hlisted
          | some second =>
              simp only [Option.isSome_none, Bool.false_eq_true, if_false, demandFree_bind]
              cases htaken : registry.find? second with
              | some old =>
                  exact .secondTaken hname hfree hrule hsecond (by rw [htaken, Option.isSome_some])
              | none =>
                  have hlisted := Answers.listed hname hfree hrule (by simp [hsecond, htaken])
                  rw [htype, hsecond] at hlisted
                  have hnext := insert_insert_of_free (of_secondKey? hsecond).1 hfree htaken
                    (registration.toType (trim name) rule)
                  simp only [Option.toList_some, List.singleton_append, List.map_cons,
                    List.map_nil, ← hnext] at hlisted
                  exact hlisted

/-! ## What holds of every registry -/

/-- Each type of a registry is listed once under each of its keys and nowhere else, and it is called
by its own key. -/
structure Sound (registry : Registry) : Prop where
  nodup : (registry.entries.map (·.1)).Nodup
  own : ∀ key type, (key, type) ∈ registry.entries → key ∈ type.keys
  all : ∀ key type, (key, type) ∈ registry.entries → type.entries ⊆ registry.entries
  settled : ∀ key type, (key, type) ∈ registry.entries → typeKey key = key
  named : ∀ key type, (key, type) ∈ registry.entries → type.info.key = toLower type.info.name

/-- What one registry finds the other finds too. -/
def Extends (registry next : Registry) : Prop :=
  ∀ key type, registry.find? key = some type → next.find? key = some type

theorem Extends.refl (registry : Registry) : registry.Extends registry := fun _ _ h => h

theorem Extends.trans {first second third : Registry} (h : first.Extends second)
    (h' : second.Extends third) : first.Extends third :=
  fun key type hkey => h' key type (h key type hkey)

theorem extends_append (registry : Registry) (entries : List (String × FieldType)) :
    registry.Extends ⟨registry.entries ++ entries⟩ := by
  intro key type hkey
  have hfound : Json.lookup key registry.entries = some type := hkey
  calc
    Json.lookup key (registry.entries ++ entries)
        = (Json.lookup key registry.entries).or (Json.lookup key entries) :=
          Json.lookup_append registry.entries entries
    _ = some type := by rw [hfound, Option.some_or]

namespace Sound

variable {type : FieldType}

theorem find?_eq_some_iff (h : registry.Sound) {key : String} :
    registry.find? key = some type ↔ (key, type) ∈ registry.entries :=
  ⟨Json.lookup_mem, Json.lookup_of_mem h.nodup⟩

/-- A registry that lists a new type under free keys stays sound. -/
theorem append (h : registry.Sound) (hnodup : type.keys.Nodup)
    (hfree : ∀ key ∈ type.keys, registry.find? key = none)
    (hsettled : ∀ key ∈ type.keys, typeKey key = key)
    (hnamed : type.info.key = toLower type.info.name) :
    Sound ⟨registry.entries ++ type.entries⟩ := by
  -- An entry is one of before, or one of the new type.
  have hcases : ∀ key other, (key, other) ∈ registry.entries ++ type.entries →
      (key, other) ∈ registry.entries ∨ other = type ∧ key ∈ type.keys := by
    intro key other hmem
    rcases List.mem_append.1 hmem with hold | hnew
    · exact Or.inl hold
    · exact Or.inr (FieldType.mem_entries.1 hnew)
  refine ⟨?_, ?_, ?_, ?_, ?_⟩
  · have hkeys : (registry.entries ++ type.entries).map (·.1) =
        registry.entries.map (·.1) ++ type.keys := by
      rw [List.map_append, type.map_fst_entries]
    rw [hkeys]
    refine h.nodup.append hnodup ?_
    intro key hold hnew
    exact Json.lookup_eq_none_iff.1 (hfree key hnew) hold
  · intro key other hmem
    rcases hcases key other hmem with hold | ⟨rfl, hkey⟩
    · exact h.own key other hold
    · exact hkey
  · intro key other hmem
    rcases hcases key other hmem with hold | ⟨rfl, -⟩
    · exact List.subset_append_of_subset_left _ (h.all key other hold)
    · exact List.subset_append_right _ _
  · intro key other hmem
    rcases hcases key other hmem with hold | ⟨rfl, hkey⟩
    · exact h.settled key other hold
    · exact hsettled key hkey
  · intro key other hmem
    rcases hcases key other hmem with hold | ⟨rfl, -⟩
    · exact h.named key other hold
    · exact hnamed

end Sound

theorem mem_builtin {key : String} {type : FieldType} :
    (key, type) ∈ builtin.entries ↔
      ∃ kind, type = .builtin kind ∧ key ∈ (FieldType.builtin kind).keys := by
  have hentries : ∀ kind, (key, type) ∈ kindEntries kind ↔
      type = .builtin kind ∧ key ∈ (FieldType.builtin kind).keys := by
    intro kind
    have hkeys : key ∈ (FieldType.builtin kind).keys ↔
        key ∈ kind.key :: kind.shortName?.toList := by
      rw [FieldType.mem_keys, List.mem_cons]
      rfl
    rw [hkeys, kindEntries, List.mem_map]
    constructor
    · rintro ⟨_, hmem, heq⟩
      cases heq
      exact ⟨rfl, hmem⟩
    · rintro ⟨rfl, hmem⟩
      exact ⟨key, hmem, rfl⟩
  rw [builtin, List.mem_flatMap]
  constructor
  · rintro ⟨kind, -, hmem⟩
    exact ⟨kind, (hentries kind).1 hmem⟩
  · rintro ⟨kind, hmem⟩
    exact ⟨kind, kind.mem_all, (hentries kind).2 hmem⟩

theorem sound_builtin : builtin.Sound := by
  have hsettled : ∀ kind, ∀ key ∈ (FieldType.builtin kind).keys, typeKey key = key := by
    intro kind
    cases kind <;> decide +kernel
  have hnamed : ∀ kind : Kind, kind.key = toLower kind.name := by
    intro kind
    cases kind <;> decide +kernel
  refine ⟨by decide +kernel, ?_, ?_, ?_, ?_⟩
  · intro key type hmem
    obtain ⟨kind, rfl, hkey⟩ := mem_builtin.1 hmem
    exact hkey
  · rintro key type hmem ⟨other, type'⟩ hentry
    obtain ⟨kind, rfl, -⟩ := mem_builtin.1 hmem
    obtain ⟨rfl, hother⟩ := FieldType.mem_entries.1 hentry
    exact mem_builtin.2 ⟨kind, rfl, hother⟩
  · intro key type hmem
    obtain ⟨kind, rfl, hkey⟩ := mem_builtin.1 hmem
    exact hsettled kind key hkey
  · intro key type hmem
    obtain ⟨kind, rfl, -⟩ := mem_builtin.1 hmem
    exact hnamed kind

end Registry

/-! ## Names in order -/

/-- The order of texts by the bytes of their encoding. -/
def ByteOrder (first second : String) : Prop :=
  first.toUTF8.data.toList < second.toUTF8.data.toList

theorem cons_byte_lt_iff {m n : Nat} (hm : m < 256) (hn : n < 256) (rest others : List UInt8) :
    UInt8.ofNat m :: rest < UInt8.ofNat n :: others ↔ m < n ∨ m = n ∧ rest < others := by
  have hm' : (UInt8.ofNat m).toNat = m := UInt8.toNat_ofNat_of_lt' hm
  have hn' : (UInt8.ofNat n).toNat = n := UInt8.toNat_ofNat_of_lt' hn
  rw [List.cons_lt_cons_iff, UInt8.lt_iff_toNat_lt, ← UInt8.toNat_inj, hm', hn']

/-- The bytes of a character come before those of a greater one, whatever follows them. -/
theorem bytes_lt_of_lt {c d : Char} (h : c < d) (rest others : List UInt8) :
    String.utf8EncodeChar c ++ rest < String.utf8EncodeChar d ++ others := by
  have hcodes : c.val.toNat < d.val.toNat := h
  have hd : d.val.toNat < 0x110000 := by
    rcases d.valid with hlow | hhigh <;> omega
  generalize hm : c.val.toNat = m at *
  generalize hn : d.val.toNat = n at *
  -- The bytes of a character are digits of its code to the base 64, so all division is by that.
  have hsecond : ∀ k : Nat, k / 4096 = k / 64 / 64 :=
    fun k => (Nat.div_div_eq_div_mul k 64 64).symm
  have hthird : ∀ k : Nat, k / 262144 = k / 64 / 64 / 64 := by
    intro k
    rw [Nat.div_div_eq_div_mul, Nat.div_div_eq_div_mul]
  simp only [String.utf8EncodeChar, hm, hn, hsecond, hthird]
  split_ifs <;>
    simp (disch := omega) only [List.cons_append, List.nil_append, cons_byte_lt_iff] <;> omega

theorem bytes_flatMap_lt {first second : List Char} (h : first < second) :
    first.flatMap String.utf8EncodeChar < second.flatMap String.utf8EncodeChar := by
  induction h with
  | @nil c rest =>
      cases hbytes : String.utf8EncodeChar c with
      | nil => exact absurd hbytes (by simp [← List.length_eq_zero_iff, c.utf8Size_pos.ne'])
      | cons byte bytes =>
          rw [List.flatMap_nil, List.flatMap_cons, hbytes]
          exact List.Lex.nil
  | @rel c rest d others hlt => exact bytes_lt_of_lt hlt _ _
  | @cons c rest others _ ih => exact List.append_left_lt ih

/-- Texts are in the order of their bytes when they are in the order of their characters. -/
theorem byteOrder_of_lt {first second : String} (h : first < second) : ByteOrder first second := by
  have hbytes : ∀ text : String,
      text.toUTF8.data.toList = text.toList.flatMap String.utf8EncodeChar := by
    intro text
    conv => lhs; rw [← String.ofList_toList (s := text)]
    rw [String.toUTF8_eq_toByteArray, String.toByteArray_ofList, List.utf8Encode,
      List.toList_data_toByteArray]
  unfold ByteOrder
  rw [hbytes, hbytes]
  exact bytes_flatMap_lt h

namespace Registry

/-- The entries of types under their own keys. -/
def owners (registry : Registry) : List (String × FieldType) :=
  registry.entries.filter fun (key, type) => key == type.info.key

theorem length_typeNames (registry : Registry) :
    registry.typeNames.length = registry.owners.length := by
  simp [typeNames, owners]

/-- A type that is not its own alias adds one entry of this sort. -/
theorem owners_append (registry : Registry) {type : FieldType} (h : type.keys.Nodup) :
    owners ⟨registry.entries ++ type.entries⟩ = registry.owners ++ [(type.info.key, type)] := by
  have hdisjoint : type.info.key ∉ type.info.aliases := by
    intro hmem
    exact (List.nodup_append.1 h).2.2 _ hmem _ (List.mem_singleton_self _) rfl
  have haliases : ((type.info.aliases.map fun key => (key, type)).filter
      fun (key, type) => key == type.info.key) = [] := by
    rw [List.filter_eq_nil_iff]
    intro entry hentry
    obtain ⟨key, hkey, rfl⟩ := List.mem_map.1 hentry
    have hne : key ≠ type.info.key := fun heq => hdisjoint (heq ▸ hkey)
    simpa using hne
  simp [owners, FieldType.entries, FieldType.keys, haliases]

/-- Types have different names, for they have different keys. -/
theorem Sound.nodup_names {registry : Registry} (h : registry.Sound) :
    (registry.owners.map (·.2.info.name)).Nodup := by
  have hkeys : (registry.owners.map (·.2.info.name)).map toLower = registry.owners.map (·.1) := by
    rw [List.map_map]
    refine List.map_congr_left ?_
    rintro ⟨key, type⟩ hmem
    obtain ⟨hentry, howner⟩ := List.mem_filter.1 hmem
    have hkey : key = type.info.key := by simpa using howner
    exact (h.named key type hentry).symm.trans hkey.symm
  refine List.Nodup.of_map toLower ?_
  rw [hkeys]
  exact h.nodup.sublist (List.filter_sublist.map _)

theorem Sound.pairwise_typeNames {registry : Registry} (h : registry.Sound) :
    registry.typeNames.Pairwise ByteOrder := by
  have hsorted : registry.typeNames.Pairwise (· ≤ ·) := List.pairwise_mergeSort' _ _
  have hdistinct : registry.typeNames.Pairwise (· ≠ ·) :=
    (List.mergeSort_perm _ _).nodup_iff.2 h.nodup_names
  refine (hsorted.and hdistinct).imp ?_
  rintro first second ⟨hle, hne⟩
  exact byteOrder_of_lt (lt_of_le_of_ne hle hne)

/-! ## Requests in a row -/

section

variable {registry next : Registry} {name : String} {registration : Registration}

/-- The keys of a new type are free, and different when there are two of them. -/
theorem keys_toType (hfree : registry.find? (typeKey name) = none)
    (hsecond : ∀ second ∈ registration.secondKey? (typeKey name), registry.find? second = none)
    (rule : Rule) :
    (registration.toType (trim name) rule).keys.Nodup ∧
      (∀ key ∈ (registration.toType (trim name) rule).keys, registry.find? key = none) ∧
      ∀ key ∈ (registration.toType (trim name) rule).keys, typeKey key = key := by
  have hkeys : (registration.toType (trim name) rule).keys =
      (registration.secondKey? (typeKey name)).toList ++ [typeKey name] := rfl
  rw [hkeys]
  cases h : registration.secondKey? (typeKey name) with
  | none => simp [hfree, typeKey_typeKey]
  | some second =>
      obtain ⟨hne, hsettled⟩ := of_secondKey? h
      have hsecond := hsecond second h
      simp [hne, hfree, hsecond, hsettled, typeKey_typeKey]

variable {answer : Except SchemaError FieldType}

theorem Answers.eq_of_error {reason : SchemaError}
    (h : registry.Answers name registration (.error reason, next)) : next = registry := by
  cases h with
  | nameless | taken | ruleless | secondTaken => rfl

theorem Answers.extends (h : registry.Answers name registration (answer, next)) :
    registry.Extends next := by
  cases h with
  | nameless | taken | ruleless | secondTaken => exact Extends.refl registry
  | listed => exact extends_append registry _

theorem Answers.sound (h : registry.Answers name registration (answer, next))
    (hsound : registry.Sound) : next.Sound := by
  cases h with
  | nameless | taken | ruleless | secondTaken => exact hsound
  | @listed rule hname hfree hrule hsecond =>
      obtain ⟨hnodup, hkeys, hsettled⟩ := keys_toType hfree hsecond rule
      exact hsound.append hnodup hkeys hsettled rfl

/-- A request is accepted in one way: its keys are free, and the type is listed at the end. -/
theorem Answers.listed_of_ok {type : FieldType}
    (h : registry.Answers name registration (.ok type, next)) :
    registry.find? (typeKey name) = none ∧
      (∀ second ∈ registration.secondKey? (typeKey name), registry.find? second = none) ∧
      (∃ rule, type = registration.toType (trim name) rule) ∧
      next = ⟨registry.entries ++ type.entries⟩ := by
  generalize houtcome : ((.ok type, next) : Except SchemaError FieldType × Registry) = outcome at h
  cases h with
  | nameless | taken | ruleless | secondTaken => simp at houtcome
  | @listed rule hname hfree hrule hsecond =>
      have htype := Except.ok.inj (congrArg Prod.fst houtcome)
      have hnext := congrArg Prod.snd houtcome
      exact ⟨hfree, hsecond, ⟨rule, htype⟩, htype ▸ hnext⟩

/-- A type that is accepted is found under all of its keys, which are those of its names, and adds
one to the names of types. -/
theorem Answers.of_ok {type : FieldType}
    (h : registry.Answers name registration (.ok type, next)) (hsound : registry.Sound) :
    (∀ key ∈ type.keys, next.find? key = some type) ∧
      type.keys = (registration.secondKey? (typeKey name)).toList ++ [typeKey name] ∧
      next.typeNames.length = registry.typeNames.length + 1 := by
  have hnext : next.Sound := h.sound hsound
  obtain ⟨hfree, hsecond, ⟨rule, htype⟩, heq⟩ := h.listed_of_ok
  have hnodup : type.keys.Nodup := by
    rw [htype]
    exact (keys_toType hfree hsecond rule).1
  refine ⟨?_, ?_, ?_⟩
  · intro key hkey
    have hentry : (key, type) ∈ next.entries := by
      rw [heq]
      exact List.mem_append_right _ (FieldType.mem_entries.2 ⟨rfl, hkey⟩)
    exact hnext.find?_eq_some_iff.2 hentry
  · rw [htype]
    rfl
  · have howners : next.owners = registry.owners ++ [(type.info.key, type)] := by
      rw [heq]
      exact owners_append registry hnodup
    rw [length_typeNames, length_typeNames, howners, List.length_append, List.length_singleton]

end

/-- Requests lead from one registry to another; so many of them are accepted on the way. -/
inductive LeadsTo (start : Registry) : Nat → Registry → Prop
  | refl : LeadsTo start 0 start
  | accepted {count : Nat} {registry next : Registry} {name : String}
      {registration : Registration} {type : FieldType} (h : LeadsTo start count registry)
      (hanswer : registry.answer name registration = (.ok type, next)) :
      LeadsTo start (count + 1) next
  | refused {count : Nat} {registry next : Registry} {name : String}
      {registration : Registration} {reason : SchemaError} (h : LeadsTo start count registry)
      (hanswer : registry.answer name registration = (.error reason, next)) :
      LeadsTo start count next

theorem answers_of_eq {registry : Registry} {name : String} {registration : Registration}
    {outcome : Except SchemaError FieldType × Registry}
    (h : registry.answer name registration = outcome) :
    registry.Answers name registration outcome :=
  h ▸ registry.answers_answer name registration

theorem LeadsTo.extends {start registry : Registry} {count : Nat}
    (h : start.LeadsTo count registry) : start.Extends registry := by
  induction h with
  | refl => exact Extends.refl start
  | accepted _ hanswer ih => exact ih.trans (answers_of_eq hanswer).extends
  | refused _ hanswer ih => exact ih.trans (answers_of_eq hanswer).extends

namespace LeadsTo

variable {start registry : Registry} {count : Nat}

theorem sound (h : start.LeadsTo count registry) (hstart : start.Sound) : registry.Sound := by
  induction h with
  | refl => exact hstart
  | accepted _ hanswer ih => exact (answers_of_eq hanswer).sound ih
  | refused _ hanswer ih => exact (answers_of_eq hanswer).sound ih

theorem length_typeNames (h : start.LeadsTo count registry) (hstart : start.Sound) :
    registry.typeNames.length = start.typeNames.length + count := by
  induction h with
  | refl => rfl
  | @accepted count registry next _ _ _ h hanswer ih =>
      obtain ⟨-, -, hlength⟩ := (answers_of_eq hanswer).of_ok (h.sound hstart)
      calc
        next.typeNames.length = registry.typeNames.length + 1 := hlength
        _ = start.typeNames.length + (count + 1) := by rw [ih, Nat.add_assoc]
  | @refused count registry next _ _ _ _ hanswer ih =>
      have hsame : next = registry := (answers_of_eq hanswer).eq_of_error
      rw [hsame]
      exact ih

end LeadsTo

theorem length_typeNames_builtin : builtin.typeNames.length = 9 := by
  rw [length_typeNames]
  decide +kernel

end Registry

theorem Registry.resolve_eq_ok {registry : Registry} {ref : TypeRef} {type : FieldType} :
    registry.resolve ref = .ok type ↔ registry.find? ref.key = some type := by
  unfold resolve
  cases registry.find? ref.key with
  | none => simp
  | some other => simp

/-- Whatever requests lead to a registry, a refusal leaves it as it is, and an accepted request
makes the new type known by its names and changes no meaning.  Every key of the registry is one of
those of its type, which is known by all of them, and the names of the types are listed in order,
one for each kind and for each request that was accepted. -/
theorem leadsTo_keeps {registry : Registry} {accepted : Nat}
    (h : Registry.builtin.LeadsTo accepted registry) :
    (∀ name registration reason next,
        registry.answer name registration = (.error reason, next) → next = registry) ∧
      (∀ name registration type next,
        registry.answer name registration = (.ok type, next) →
          next.resolve (.name name) = .ok type ∧
          (∀ second, registration.secondName = some second → trim second ≠ "" →
            next.resolve (.name second) = .ok type) ∧
          ∀ ref old, registry.resolve ref = .ok old → next.resolve ref = .ok old) ∧
      (∀ key type, registry.find? key = some type →
        (key = type.info.key ∨ key ∈ type.info.aliases) ∧
          ∀ other, other = type.info.key ∨ other ∈ type.info.aliases →
            registry.find? other = some type ∧ registry.resolve (.name other) = .ok type) ∧
      (∀ name, registry.contains name = true ↔
        ∃ type, registry.resolve (.name name) = .ok type) ∧
      registry.typeNames.Pairwise ByteOrder ∧
      registry.typeNames.length = 9 + accepted := by
  have hsound : registry.Sound := h.sound Registry.sound_builtin
  have hcount : registry.typeNames.length = 9 + accepted := by
    rw [h.length_typeNames Registry.sound_builtin, Registry.length_typeNames_builtin]
  refine ⟨?_, ?_, ?_, ?_, hsound.pairwise_typeNames, hcount⟩
  · intro name registration reason next hanswer
    exact (Registry.answers_of_eq hanswer).eq_of_error
  · intro name registration type next hanswer
    have hanswers := Registry.answers_of_eq hanswer
    obtain ⟨hfound, hkeys, -⟩ := hanswers.of_ok hsound
    have hown : next.resolve (.name name) = .ok type := by
      refine Registry.resolve_eq_ok.2 (hfound (typeKey name) ?_)
      rw [hkeys]
      exact List.mem_append_right _ (List.mem_singleton_self _)
    refine ⟨hown, ?_, ?_⟩
    · intro second hsecond hblank
      rcases secondKey?_cases (typeKey name) hsecond hblank with hsame | hother
      · have hkey : (TypeRef.name second).key = (TypeRef.name name).key := hsame
        rw [Registry.resolve_eq_ok, hkey, ← Registry.resolve_eq_ok]
        exact hown
      · refine Registry.resolve_eq_ok.2 (hfound (typeKey second) ?_)
        rw [hkeys, hother]
        exact List.mem_append_left _ (List.mem_singleton_self _)
    · intro ref old hold
      exact Registry.resolve_eq_ok.2 (hanswers.extends _ _ (Registry.resolve_eq_ok.1 hold))
  · intro key type hfound
    have hmem : (key, type) ∈ registry.entries := hsound.find?_eq_some_iff.1 hfound
    refine ⟨FieldType.mem_keys.1 (hsound.own key type hmem), ?_⟩
    intro other hother
    have hentry : (other, type) ∈ registry.entries :=
      hsound.all key type hmem (FieldType.mem_entries.2 ⟨rfl, FieldType.mem_keys.2 hother⟩)
    have hlisted : registry.find? other = some type := hsound.find?_eq_some_iff.2 hentry
    refine ⟨hlisted, Registry.resolve_eq_ok.2 ?_⟩
    have hsettled : (TypeRef.name other).key = other := hsound.settled other type hentry
    rw [hsettled]
    exact hlisted
  · intro name
    have hfound : ∀ type, registry.resolve (.name name) = .ok type ↔
        registry.find? (typeKey name) = some type := fun _ => Registry.resolve_eq_ok
    simp only [Registry.contains, hfound, Option.isSome_iff_exists]

/-- A type that takes every value, with a second name of its own. -/
def moneyRegistration : Registration :=
  { rule := some fun _ _ value _ => .ok value, secondName := some " CASH " }

/-- The type of money. -/
def moneyType : FieldType := moneyRegistration.toType "Money" fun _ _ value _ => .ok value

/-- The built-in kinds, and money. -/
def moneyRegistry : Registry := ⟨Registry.builtin.entries ++ moneyType.entries⟩

theorem leadsTo_moneyRegistry : Registry.builtin.LeadsTo 1 moneyRegistry := by
  have hanswer : Registry.builtin.answer " Money " moneyRegistration =
      (.ok moneyType, moneyRegistry) := rfl
  exact .accepted .refl hanswer

theorem leadsTo_keeps_moneyRegistry :
    Registry.builtin.LeadsTo 1 moneyRegistry ∧
      moneyRegistry.answer "cash" moneyRegistration =
        (.error (.duplicateType "cash"), moneyRegistry) ∧
      moneyRegistry.find? "cash" = some moneyType ∧
      moneyRegistry.resolve (.name "money") = .ok moneyType ∧
      moneyRegistry.typeNames.Pairwise ByteOrder ∧ moneyRegistry.typeNames.length = 10 := by
  have hcash : moneyRegistry.find? "cash" = some moneyType := rfl
  obtain ⟨-, -, hkeys, -, hordered, hcount⟩ := leadsTo_keeps leadsTo_moneyRegistry
  obtain ⟨-, hothers⟩ := hkeys "cash" moneyType hcash
  have hmoney := (hothers "money" (Or.inl rfl)).2
  exact ⟨leadsTo_moneyRegistry, rfl, hcash, hmoney, hordered, hcount⟩

end Conform
