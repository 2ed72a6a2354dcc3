import Conform.Proofs.Documents
import Conform.Proofs.Numbers
import Conform.Proofs.Precedence
import Mathlib.Data.List.Induction

/-!
# Constraints that are stated again

A call on a field definition states a constraint under some spelling of its key.  A call under a
spelling that was used before gives a new value in the old place, a call under a new spelling goes
to the end, and resolution reads the places in order.  So a constraint is decided by the spelling
that came in last, with the value that this spelling was given last.  This file defines:

* `Json.insertAll`: members after some insertions, one after the other;
* `FieldDefinition.restate`: a field definition after some calls;
* `Prevails`: the value that decides a constraint after some calls;
* `Facets.lengthBound?`: the bound on lengths that a key speaks about.

The main statement is `resolveField_restate`, and `exists_resolveField_overruled` is a sequence of
calls of which the last one changes nothing.
-/

namespace Conform

/-! ## Insertions -/

namespace Json

variable {α : Type} {key text : String} {value : α} {members first second pairs : List (String × α)}

/-- Members after the pairs have been inserted, one after the other. -/
def insertAll (members pairs : List (String × α)) : List (String × α) :=
  pairs.foldl (fun members (key, value) => insert key value members) members

@[simp] theorem insertAll_nil (members : List (String × α)) : insertAll members [] = members := rfl

@[simp] theorem insertAll_cons (members : List (String × α)) (pair : String × α)
    (rest : List (String × α)) :
    insertAll members (pair :: rest) = insertAll (insert pair.1 pair.2 members) rest := rfl

theorem insertAll_append (members first second : List (String × α)) :
    insertAll members (first ++ second) = insertAll (insertAll members first) second :=
  List.foldl_append

theorem insert_append_of_mem (h : key ∈ first.map (·.1)) (value : α)
    (second : List (String × α)) :
    insert key value (first ++ second) = insert key value first ++ second := by
  induction first with
  | nil => exact absurd h List.not_mem_nil
  | cons member rest ih =>
      rcases member with ⟨k, v⟩
      by_cases hk : k = key
      · simp [insert, hk]
      · have hrest : key ∈ rest.map (·.1) := List.mem_of_ne_of_mem (Ne.symm hk) h
        simp [insert, hk, ih hrest]

theorem insert_append_of_not_mem (h : key ∉ first.map (·.1)) (value : α)
    (second : List (String × α)) :
    insert key value (first ++ second) = first ++ insert key value second := by
  induction first with
  | nil => rfl
  | cons member rest ih =>
      rcases member with ⟨k, v⟩
      have hk : k ≠ key := fun heq => h (heq ▸ List.mem_cons_self)
      simp [insert, hk, ih fun hmem => h (List.mem_cons_of_mem _ hmem)]

theorem keys_insert_of_mem (h : key ∈ members.map (·.1)) (value : α) :
    (insert key value members).map (·.1) = members.map (·.1) := by
  induction members with
  | nil => exact absurd h List.not_mem_nil
  | cons member rest ih =>
      rcases member with ⟨k, v⟩
      by_cases hk : k = key
      · simp [insert, hk]
      · have hrest : key ∈ rest.map (·.1) := List.mem_of_ne_of_mem (Ne.symm hk) h
        simp [insert, hk, ih hrest]

theorem mem_insert {member : String × α} (h : member ∈ insert key value members) :
    member = (key, value) ∨ member ∈ members := by
  induction members with
  | nil => exact Or.inl (List.mem_singleton.1 h)
  | cons other rest ih =>
      rcases other with ⟨k, v⟩
      unfold insert at h
      split at h
      · next hk =>
          subst hk
          exact (List.mem_cons.1 h).imp_right (List.mem_cons_of_mem _)
      · rcases List.mem_cons.1 h with rfl | hmem
        · exact Or.inr List.mem_cons_self
        · exact (ih hmem).imp_right (List.mem_cons_of_mem _)

theorem mem_insertAll {member : String × α} (h : member ∈ insertAll members pairs) :
    member ∈ members ∨ member ∈ pairs := by
  induction pairs generalizing members with
  | nil => exact Or.inl h
  | cons pair rest ih =>
      rcases ih h with hmem | hmem
      · rcases mem_insert hmem with rfl | hmem
        · exact Or.inr List.mem_cons_self
        · exact Or.inl hmem
      · exact Or.inr (List.mem_cons_of_mem _ hmem)

theorem mem_keys_insertAll :
    key ∈ (insertAll members pairs).map (·.1) ↔
      key ∈ members.map (·.1) ∨ key ∈ pairs.map (·.1) := by
  induction pairs generalizing members with
  | nil => simp
  | cons pair rest ih =>
      rw [insertAll_cons, ih, mem_keys_insert, List.map_cons, List.mem_cons, or_assoc,
        or_left_comm]

/-- A key has the value that it was given last. -/
theorem lookup_insertAll (key : String) (members pairs : List (String × α)) :
    lookup key (insertAll members pairs) = (lookup key pairs.reverse).or (lookup key members) := by
  induction pairs generalizing members with
  | nil => rfl
  | cons pair rest ih =>
      rcases pair with ⟨k, v⟩
      rw [insertAll_cons, ih, List.reverse_cons, lookup_append, Option.or_assoc]
      by_cases hk : k = key
      · subst hk
        simp [lookup_insert_self, lookup]
      · simp [lookup_insert_of_ne (Ne.symm hk), lookup, hk]

/-- Members can be cut at the first one of a key. -/
theorem exists_append_of_mem_keys (h : key ∈ members.map (·.1)) :
    ∃ before value after, members = before ++ (key, value) :: after ∧ key ∉ before.map (·.1) := by
  obtain ⟨keys, rest, hsplit, hfresh⟩ := List.eq_append_cons_of_mem h
  obtain ⟨before, others, rfl, rfl, hothers⟩ := List.map_eq_append_iff.1 hsplit
  obtain ⟨⟨_, value⟩, after, rfl, rfl, -⟩ := List.map_eq_cons_iff.1 hothers
  exact ⟨before, value, after, rfl, hfresh⟩

/-- Members under other keys stay ahead of what is inserted. -/
theorem insertAll_append_left (h : ∀ pair ∈ pairs, pair.1 ∉ first.map (·.1)) :
    insertAll (first ++ second) pairs = first ++ insertAll second pairs := by
  induction pairs generalizing second with
  | nil => rfl
  | cons pair rest ih =>
      rw [insertAll_cons, insert_append_of_not_mem (h pair List.mem_cons_self)]
      exact ih fun other hother => h other (List.mem_cons_of_mem _ hother)

/-- A key of a sort stays behind all others of its sort, when no new one of the sort is inserted. -/
theorem exists_insertAll_eq {p : String → Prop} (value : α) (htext : text ∉ first.map (·.1))
    (hsecond : ∀ member ∈ second, ¬ p member.1)
    (hpairs : ∀ pair ∈ pairs, p pair.1 → pair.1 = text ∨ pair.1 ∈ first.map (·.1)) :
    ∃ first' value' second',
      insertAll (first ++ (text, value) :: second) pairs = first' ++ (text, value') :: second' ∧
        first'.map (·.1) = first.map (·.1) ∧ ∀ member ∈ second', ¬ p member.1 := by
  induction pairs generalizing first value second with
  | nil => exact ⟨first, value, second, rfl, rfl, hsecond⟩
  | cons pair rest ih =>
      rcases pair with ⟨k, v⟩
      have hrest : ∀ other ∈ rest, p other.1 → other.1 = text ∨ other.1 ∈ first.map (·.1) :=
        fun other hother => hpairs other (List.mem_cons_of_mem _ hother)
      rw [insertAll_cons]
      by_cases hfirst : k ∈ first.map (·.1)
      · -- The key stands ahead, and keeps its place.
        have hkeys : (insert k v first).map (·.1) = first.map (·.1) := keys_insert_of_mem hfirst v
        rw [insert_append_of_mem hfirst]
        rw [← hkeys] at htext hrest ⊢
        exact ih _ htext hsecond hrest
      · rw [insert_append_of_not_mem hfirst]
        by_cases hk : k = text
        · subst hk
          have hsame : insert k v ((k, value) :: second) = (k, v) :: second := if_pos rfl
          rw [hsame]
          exact ih _ htext hsecond hrest
        · have hbehind : insert k v ((text, value) :: second) =
              (text, value) :: insert k v second := if_neg (Ne.symm hk)
          rw [hbehind]
          refine ih _ htext (fun member hmember => ?_) hrest
          rcases mem_insert hmember with rfl | hmem
          · -- What is inserted behind is new, so it is of another sort.
            intro hsort
            exact (hpairs (k, v) List.mem_cons_self hsort).elim hk hfirst
          · exact hsecond member hmem

end Json

/-! ## Calls -/

/-- A field definition after calls that state constraints, one after the other. -/
def FieldDefinition.restate (definition : FieldDefinition) (calls : List (String × Json)) :
    FieldDefinition :=
  calls.foldl (fun definition (text, json) => definition.constrain text json) definition

theorem FieldDefinition.restate_eq (definition : FieldDefinition) (calls : List (String × Json)) :
    definition.restate calls =
      { definition with constraints := Json.insertAll definition.constraints calls } := by
  induction calls generalizing definition with
  | nil => rfl
  | cons call rest ih => exact ih (definition.constrain call.1 call.2)

/-- After some calls a constraint is decided by a value: it was given last under its spelling, and
no other spelling of the constraint has come in after this one. -/
structure Prevails (key : ConstraintKey) (calls : List (String × Json)) (text : String)
    (json : Json) : Prop where
  spells : ConstraintKey.ofText? text = some key
  latest : Json.lookup text calls.reverse = some json
  newest : ∃ before given after, calls = before ++ (text, given) :: after ∧
    text ∉ before.map (·.1) ∧
    ∀ call ∈ after, ConstraintKey.ofText? call.1 = some key →
      call.1 = text ∨ call.1 ∈ before.map (·.1)

namespace Prevails

variable {key : ConstraintKey} {calls : List (String × Json)} {text : String} {json : Json}

theorem mem (h : Prevails key calls text json) : (text, json) ∈ calls :=
  List.mem_reverse.1 (Json.lookup_mem h.latest)

/-- The value that prevails stands behind all others on its constraint. -/
theorem exists_insertAll_eq (h : Prevails key calls text json) :
    ∃ before after, Json.insertAll [] calls = before ++ (text, json) :: after ∧
      ∀ constraint ∈ after, ConstraintKey.ofText? constraint.1 ≠ some key := by
  obtain ⟨earlier, given, later, rfl, hfresh, hlater⟩ := h.newest
  have hnew : text ∉ (Json.insertAll [] earlier).map (·.1) := by
    rw [Json.mem_keys_insertAll]
    exact fun hmem => hmem.elim List.not_mem_nil hfresh
  have hkeys : ∀ call ∈ later, ConstraintKey.ofText? call.1 = some key →
      call.1 = text ∨ call.1 ∈ (Json.insertAll [] earlier).map (·.1) := by
    intro call hcall hkey
    exact (hlater call hcall hkey).imp_right fun hmem => Json.mem_keys_insertAll.2 (Or.inr hmem)
  have hplaced : Json.insertAll [] (earlier ++ (text, given) :: later) =
      Json.insertAll (Json.insertAll [] earlier ++ (text, given) :: []) later := by
    rw [Json.insertAll_append, Json.insertAll_cons,
      Json.insert_of_lookup_eq_none (Json.lookup_eq_none_iff.2 hnew)]
  obtain ⟨before, value, after, hsplit, hbefore, hafter⟩ :=
    Json.exists_insertAll_eq (p := fun text => ConstraintKey.ofText? text = some key) given hnew
      (fun member hmember => absurd hmember List.not_mem_nil) hkeys
  refine ⟨before, after, ?_, hafter⟩
  -- The value in that place is the one that the spelling was given last.
  have hvalue : Json.lookup text (before ++ (text, value) :: after) = some value := by
    have hnone : Json.lookup text before = none := by
      rw [Json.lookup_eq_none_iff, hbefore]
      exact hnew
    simp [Json.lookup_append, hnone, Json.lookup]
  rw [← hsplit, ← hplaced, Json.lookup_insertAll, h.latest] at hvalue
  cases hvalue
  rw [hplaced, hsplit]

/-- A call under a spelling that comes in with it prevails. -/
theorem of_not_mem {call : String × Json} (hkey : ConstraintKey.ofText? call.1 = some key)
    (hnew : call.1 ∉ calls.map (·.1)) : Prevails key (calls ++ [call]) call.1 call.2 where
  spells := hkey
  latest := by simp [Json.lookup]
  newest := ⟨calls, call.2, [], rfl, hnew, fun other hother => absurd hother List.not_mem_nil⟩

/-- After one more call there is still a value that prevails. -/
theorem exists_append_singleton (h : Prevails key calls text json) (call : String × Json) :
    ∃ text' json', Prevails key (calls ++ [call]) text' json' := by
  by_cases hcall : ConstraintKey.ofText? call.1 = some key ∧ call.1 ∉ calls.map (·.1)
  · exact ⟨call.1, call.2, of_not_mem hcall.1 hcall.2⟩
  · -- No spelling came in, so the one that prevailed does, though its value may be a new one.
    obtain ⟨before, given, after, hsplit, hfresh, hafter⟩ := h.newest
    have hstated : text ∈ (calls ++ [call]).reverse.map (·.1) :=
      List.mem_map.2 ⟨(text, json), by simp [h.mem], rfl⟩
    obtain ⟨json', hlatest⟩ := Json.exists_lookup_of_mem_keys hstated
    refine ⟨text, json', h.spells, hlatest, before, given, after ++ [call], ?_, hfresh, ?_⟩
    · rw [hsplit, List.append_assoc, List.cons_append]
    · intro other hother hspells
      rcases List.mem_append.1 hother with hmem | hmem
      · exact hafter other hmem hspells
      · obtain rfl := List.mem_singleton.1 hmem
        have hused : other.1 ∈ calls.map (·.1) := by
          by_contra hunused
          exact hcall ⟨hspells, hunused⟩
        rw [hsplit, List.map_append, List.map_cons, List.mem_append, List.mem_cons] at hused
        rcases hused with hbefore | htext | hlater
        · exact Or.inr hbefore
        · exact Or.inl htext
        · obtain ⟨later, hmem, heq⟩ := List.mem_map.1 hlater
          rw [← heq] at hspells ⊢
          exact hafter later hmem hspells

/-- Where a constraint is stated some value prevails. -/
theorem exists_of_stated (h : ∃ call ∈ calls, ConstraintKey.ofText? call.1 = some key) :
    ∃ text json, Prevails key calls text json := by
  induction calls using List.reverseRecOn with
  | nil =>
      obtain ⟨call, hcall, -⟩ := h
      exact absurd hcall List.not_mem_nil
  | append_singleton earlier last ih =>
      by_cases hearlier : ∃ call ∈ earlier, ConstraintKey.ofText? call.1 = some key
      · obtain ⟨text, json, hprevails⟩ := ih hearlier
        exact hprevails.exists_append_singleton last
      · obtain ⟨call, hcall, hkey⟩ := h
        rcases List.mem_append.1 hcall with hmem | hmem
        · exact absurd ⟨call, hmem, hkey⟩ hearlier
        · obtain rfl := List.mem_singleton.1 hmem
          refine ⟨call.1, call.2, of_not_mem hkey fun hused => hearlier ?_⟩
          obtain ⟨other, hother, heq⟩ := List.mem_map.1 hused
          exact ⟨other, hother, heq ▸ hkey⟩

end Prevails

/-- The value of a call with which a constraint was stated last prevails, if the spelling of the
call was new or if no call before it used another one. -/
theorem prevails_of_last {key : ConstraintKey} {text : String} {json : Json}
    {before after : List (String × Json)} (hkey : ConstraintKey.ofText? text = some key)
    (hafter : ∀ call ∈ after, ConstraintKey.ofText? call.1 ≠ some key)
    (hspelling : text ∉ before.map (·.1) ∨
      ∀ call ∈ before, ConstraintKey.ofText? call.1 = some key → call.1 = text) :
    Prevails key (before ++ (text, json) :: after) text json where
  spells := hkey
  latest := by
    have hnone : Json.lookup text after.reverse = none := by
      rw [Json.lookup_eq_none_iff, List.map_reverse, List.mem_reverse]
      intro hmem
      obtain ⟨call, hcall, rfl⟩ := List.mem_map.1 hmem
      exact hafter call hcall hkey
    simp [Json.lookup_append, hnone, Json.lookup]
  newest := by
    by_cases hused : text ∈ before.map (·.1)
    · -- The spelling came in with an earlier call, and no other one was used in between.
      obtain ⟨earlier, given, later, rfl, hfresh⟩ := Json.exists_append_of_mem_keys hused
      refine ⟨earlier, given, later ++ (text, json) :: after, by simp, hfresh, ?_⟩
      have honly := hspelling.resolve_left (not_not_intro hused)
      intro call hcall hspells
      rcases List.mem_append.1 hcall with hmem | hmem
      · exact Or.inl (honly call (List.mem_append_right _ (List.mem_cons_of_mem _ hmem)) hspells)
      · rcases List.mem_cons.1 hmem with rfl | hmem
        · exact Or.inl rfl
        · exact absurd hspells (hafter call hmem)
    · exact ⟨before, json, after, rfl, hused, fun call hcall hspells =>
        absurd hspells (hafter call hcall)⟩

/-! ## Resolution -/

/-- A key speaks about the length of texts. -/
def ConstraintKey.isLength : ConstraintKey → Bool
  | minLength | maxLength => true
  | coerce | required | min | max | pattern | allowed | trim | lowercase | uppercase | message
  | default => false

namespace Facets

/-- The bound on lengths that a key speaks about. -/
def lengthBound? (facets : Facets) : ConstraintKey → Option (Clause Nat)
  | .minLength => facets.minLength
  | .maxLength => facets.maxLength
  | _ => none

/-- Facets with the bounds on lengths taken from others. -/
def withLengths (facets source : Facets) : Facets :=
  { facets with minLength := source.minLength, maxLength := source.maxLength }

variable {dated : Bool} {key : ConstraintKey} {json : Json} {clause : Clause Nat}

/-- A constraint on lengths writes the bound that is read of it. -/
theorem lengthBound?_of_reads {source : Facets} (hlength : key.isLength = true)
    (hread : readLength json = .ok clause) (h : Reads dated key json source) (facets : Facets) :
    (facets.withPart key source).lengthBound? key = some clause := by
  have happly := h facets
  cases key with
  | minLength | maxLength =>
      simp only [apply, hread, reading] at happly
      rw [← Except.ok.inj happly]
      rfl
  | coerce | required | min | max | pattern | allowed | trim | lowercase | uppercase | message
  | default => exact Bool.noConfusion hlength

theorem exists_reads_of_readLength (hlength : key.isLength = true)
    (hread : readLength json = .ok clause) (dated : Bool) :
    ∃ source, Reads dated key json source := by
  rcases apply_cases dated key json with hreads | ⟨reason, hfails⟩
  · exact hreads
  · have hfailed := hfails { coerce := false }
    cases key with
    | minLength | maxLength =>
        simp only [apply, hread, reading] at hfailed
        cases hfailed
    | coerce | required | min | max | pattern | allowed | trim | lowercase | uppercase | message
    | default => exact Bool.noConfusion hlength

/-- Constraints on lengths leave all other facets as they are. -/
theorem foldl_stating_lengths {constraints : List (ConstraintKey × Json)}
    (h : ∀ constraint ∈ constraints, constraint.1.isLength = true) (facets : Facets) :
    constraints.foldl (stating dated) facets =
      facets.withLengths (constraints.foldl (stating dated) facets) := by
  induction constraints generalizing facets with
  | nil => rfl
  | cons constraint rest ih =>
      rw [List.foldl_cons, ih (fun other hother => h other (List.mem_cons_of_mem _ hother))]
      -- What one constraint writes is a bound on lengths, which the rest may write again.
      rcases constraint with ⟨key, json⟩
      have hlength : key.isLength = true := h (key, json) List.mem_cons_self
      rcases stating_cases dated (key, json) with ⟨source, hwrites⟩ | hkeeps
      · rw [hwrites]
        cases key with
        | minLength | maxLength => rfl
        | coerce | required | min | max | pattern | allowed | trim | lowercase | uppercase
        | message | default => exact Bool.noConfusion hlength
      · rw [hkeeps]
        rfl

/-- A bound on lengths that no constraint speaks about stays as it is. -/
theorem lengthBound?_foldl_stating {constraints : List (ConstraintKey × Json)}
    (h : ∀ constraint ∈ constraints, constraint.1 ≠ key) (facets : Facets) :
    (constraints.foldl (stating dated) facets).lengthBound? key = facets.lengthBound? key := by
  have hwritten : constraints.foldl (stating dated) (facets.withPart key facets) =
      (constraints.foldl (stating dated) facets).withPart key facets :=
    foldl_stating_withPart h facets facets
  have hself : facets.withPart key facets = facets := by cases key <;> rfl
  rw [hself] at hwritten
  rw [hwritten]
  cases key <;> rfl

end Facets

variable {options : Options} {registry : Registry} {path : String} {definition : FieldDefinition}
  {dated : Bool} {constraints calls : List (String × Json)} {facets facets' : Facets}

/-- Every call states a constraint on lengths, with a value that can be read. -/
def StateLengths (calls : List (String × Json)) : Prop :=
  ∀ call ∈ calls, ∃ key clause, ConstraintKey.ofText? call.1 = some key ∧ key.isLength = true ∧
    readLength call.2 = .ok clause

/-- No constraint speaks about lengths. -/
def FreeOfLengths (constraints : List (String × Json)) : Prop :=
  ∀ constraint ∈ constraints, ∀ key, ConstraintKey.ofText? constraint.1 = some key →
    key.isLength = false

namespace StateLengths

/-- Calls on lengths come in behind constraints that do not speak about lengths. -/
theorem insertAll_eq (h : StateLengths calls) (hfree : FreeOfLengths constraints) :
    Json.insertAll constraints calls = constraints ++ Json.insertAll [] calls := by
  have hkeys : ∀ call ∈ calls, call.1 ∉ constraints.map (·.1) := by
    intro call hcall hmem
    obtain ⟨key, -, hkey, hlength, -⟩ := h call hcall
    obtain ⟨constraint, hconstraint, heq⟩ := List.mem_map.1 hmem
    have hother := hfree constraint hconstraint key (heq ▸ hkey)
    exact absurd (hlength.symm.trans hother) (by decide)
  have hinsert : Json.insertAll (constraints ++ []) calls =
      constraints ++ Json.insertAll [] calls := Json.insertAll_append_left hkeys
  rwa [List.append_nil] at hinsert

theorem insertAll (h : StateLengths calls) : StateLengths (Json.insertAll [] calls) :=
  fun call hcall => h call ((Json.mem_insertAll hcall).resolve_left List.not_mem_nil)

theorem known (h : StateLengths calls) : ∀ constraint ∈ knownConstraints calls,
    constraint.1.isLength = true ∧ ∃ clause, readLength constraint.2 = .ok clause := by
  intro constraint hmem
  obtain ⟨⟨text, json⟩, hcall, hknown⟩ := List.mem_filterMap.1 hmem
  obtain ⟨key, clause, hkey, hlength, hread⟩ := h (text, json) hcall
  obtain ⟨key', hkey', rfl⟩ := Option.map_eq_some_iff.1 hknown
  obtain rfl : key = key' := Option.some.inj (hkey.symm.trans hkey')
  exact ⟨hlength, clause, hread⟩

/-- Constraints stay readable when calls on lengths come in behind them, and state the same but for
the bounds on lengths. -/
theorem resolveConstraints_append (h : StateLengths calls)
    (hresolved : (resolveConstraints dated path constraints facets).result = .ok facets') :
    ∃ restated, (resolveConstraints dated path (constraints ++ calls) facets).result =
      .ok restated ∧ restated = facets'.withLengths restated := by
  obtain ⟨hreadable, rfl⟩ := resolveConstraints_eq_ok_iff.1 hresolved
  have hknown : knownConstraints (constraints ++ calls) =
      knownConstraints constraints ++ knownConstraints calls := List.filterMap_append
  refine ⟨_, resolveConstraints_eq_ok_iff.2 ⟨?_, rfl⟩, ?_⟩
  · rw [hknown]
    intro constraint hmem
    rcases List.mem_append.1 hmem with hmem | hmem
    · exact hreadable constraint hmem
    · obtain ⟨hlength, clause, hread⟩ := h.known constraint hmem
      exact Facets.exists_reads_of_readLength hlength hread dated
  · rw [hknown, List.foldl_append]
    exact Facets.foldl_stating_lengths (fun constraint hmem => (h.known constraint hmem).1) _

/-- After constraints that do not speak about lengths, a bound is read from the value that prevails
among the calls. -/
theorem lengthBound?_eq_some_iff (h : StateLengths calls) (hfree : FreeOfLengths constraints)
    (hnone : facets.minLength = none ∧ facets.maxLength = none)
    (hresolved : (resolveConstraints dated path (Json.insertAll constraints calls) facets).result =
      .ok facets') {key : ConstraintKey} (hlength : key.isLength = true) {clause : Clause Nat} :
    facets'.lengthBound? key = some clause ↔
      ∃ text json, Prevails key calls text json ∧ readLength json = .ok clause := by
  have hprevails : ∀ {text json} {given : Clause Nat}, Prevails key calls text json →
      readLength json = .ok given → facets'.lengthBound? key = some given := by
    intro text json given hprevails hread
    obtain ⟨before, after, hsplit, hafter⟩ := hprevails.exists_insertAll_eq
    rw [h.insertAll_eq hfree, hsplit, ← List.append_assoc] at hresolved
    obtain ⟨source, others, hreads, rfl⟩ :=
      resolveConstraints_last hprevails.spells hafter hresolved
    exact Facets.lengthBound?_of_reads hlength hread hreads others
  constructor
  · intro hbound
    by_cases hstated : ∃ call ∈ calls, ConstraintKey.ofText? call.1 = some key
    · obtain ⟨text, json, hvalue⟩ := Prevails.exists_of_stated hstated
      obtain ⟨-, given, -, -, hread⟩ := h (text, json) hvalue.mem
      have hgiven := hprevails hvalue hread
      rw [hbound] at hgiven
      cases hgiven
      exact ⟨text, json, hvalue, hread⟩
    · -- Nothing speaks about this length, and there was no bound to begin with.
      have hunstated : ∀ constraint ∈ Json.insertAll constraints calls,
          ConstraintKey.ofText? constraint.1 ≠ some key := by
        intro constraint hmem hkey
        rcases Json.mem_insertAll hmem with hmem | hmem
        · exact absurd (hlength.symm.trans (hfree constraint hmem key hkey)) (by decide)
        · exact hstated ⟨constraint, hmem, hkey⟩
      obtain ⟨-, rfl⟩ := resolveConstraints_eq_ok_iff.1 hresolved
      rw [Facets.lengthBound?_foldl_stating (ne_of_mem_knownConstraints hunstated)] at hbound
      cases key with
      | minLength => exact absurd (hnone.1.symm.trans hbound) nofun
      | maxLength => exact absurd (hnone.2.symm.trans hbound) nofun
      | coerce | required | min | max | pattern | allowed | trim | lowercase | uppercase | message
      | default => exact Bool.noConfusion hlength
  · rintro ⟨text, json, hvalue, hread⟩
    exact hprevails hvalue hread

end StateLengths

/-- What is done to facets once all constraints are read leaves bounds on lengths alone. -/
theorem FieldDefinition.finish_withLengths (definition : FieldDefinition) (dated : Bool)
    (facets source : Facets) :
    definition.finish dated (facets.withLengths source) =
      (definition.finish dated facets).withLengths source := by
  have hcoerce : (facets.withLengths source).coerce = facets.coerce := rfl
  rw [finish, finish, hcoerce]
  split <;> rfl

/-- Calls on lengths change nothing of a field but its bounds on lengths.  Each bound is read from
the value that prevails among the calls; this is the value of the last call on it, where the
spelling of that call was new or the only one in use. -/
theorem resolveField_restate {field : Field}
    (h : (resolveField options registry path definition).result = .ok field)
    (hfree : FreeOfLengths definition.constraints) (hcalls : StateLengths calls) :
    ∃ field', (resolveField options registry path (definition.restate calls)).result = .ok field' ∧
      field' = { field with facets := field.facets.withLengths field'.facets } ∧
      ∀ key, key.isLength = true → ∀ clause,
        (field'.facets.lengthBound? key = some clause ↔
          ∃ text json, Prevails key calls text json ∧ readLength json = .ok clause) ∧
        ∀ before text json after, calls = before ++ (text, json) :: after →
          ConstraintKey.ofText? text = some key →
          (∀ call ∈ after, ConstraintKey.ofText? call.1 ≠ some key) →
          (text ∉ before.map (·.1) ∨
            ∀ call ∈ before, ConstraintKey.ofText? call.1 = some key → call.1 = text) →
          readLength json = .ok clause → field'.facets.lengthBound? key = some clause := by
  obtain ⟨htype, facets, hfacets, hfield⟩ := resolveField_eq_ok_iff.1 h
  obtain ⟨restated, hrestated, hsame⟩ := hcalls.insertAll.resolveConstraints_append hfacets
  rw [← hcalls.insertAll_eq hfree] at hrestated
  -- The field that is stated now is the one that was stated before, with the new bounds.
  have hfinish : field.facets.withLengths restated =
      definition.finish field.type.isDated restated := by
    rw [hfield, ← FieldDefinition.finish_withLengths, ← hsame]
  have hbound : ∀ key, (field.facets.withLengths restated).lengthBound? key =
      restated.lengthBound? key := by
    intro key
    cases key <;> rfl
  refine ⟨⟨field.type, field.facets.withLengths restated⟩, ?_, rfl, ?_⟩
  · rw [FieldDefinition.restate_eq]
    exact resolveField_eq_ok_iff.2 ⟨htype, restated, hrestated, hfinish⟩
  · intro key hlength clause
    rw [hbound]
    have hread : restated.lengthBound? key = some clause ↔
        ∃ text json, Prevails key calls text json ∧ readLength json = .ok clause :=
      hcalls.lengthBound?_eq_some_iff hfree ⟨rfl, rfl⟩ hrestated hlength
    refine ⟨hread, ?_⟩
    rintro before text json after rfl hkey hafter hspelling hclause
    exact hread.2 ⟨text, json, prevails_of_last hkey hafter hspelling, hclause⟩

/-- A length as it is written in a definition. -/
def writtenLength (n : Nat) (h : Json.InIntegerRange n := by decide) : Json :=
  .number (.integer n h)

section WrittenLengths

variable {n : Nat} {h : Json.InIntegerRange n}

/-- A length that no rounding changes is read as it is written. -/
theorem length?_writtenLength (hprecise : Binary64.Precise (n * Binary64.unitsPerOne)) :
    length? (writtenLength n h) = some n := by
  have hvalue := Binary64.signedUnits_ofInt (Json.Number.natAbs_le_of_inIntegerRange h) hprecise
  have hwhole := Binary64.isIntegral_of_signedUnits hvalue
  have hle : n ≤ greatestLength := by
    have hlt := h.2
    unfold greatestLength
    omega
  simp only [length?, writtenLength, Json.binary64?, Json.Number.toBinary64, hwhole,
    Binary64.toInt_of_signedUnits hvalue]
  simp [hle]

theorem readLength_eq_ok {json : Json} {clause : Clause Json} {n : Nat}
    (hclause : readClause json = .ok clause) (hlength : length? clause.value = some n) :
    readLength json = .ok ⟨n, clause.message⟩ := by
  refine bind_eq_ok.2 ⟨clause, hclause, ?_⟩
  simp only [hlength]
  rfl

theorem readLength_writtenLength (hprecise : Binary64.Precise (n * Binary64.unitsPerOne)) :
    readLength (writtenLength n h) = .ok ⟨n, none⟩ := by
  have hclause : readClause (writtenLength n h) = .ok ⟨writtenLength n h, none⟩ := rfl
  exact readLength_eq_ok hclause (length?_writtenLength hprecise)

theorem readLength_withMessage (hprecise : Binary64.Precise (n * Binary64.unitsPerOne))
    (message : String) :
    readLength (.array [writtenLength n h, .string message]) = .ok ⟨n, some message⟩ := by
  have hclause : readClause (.array [writtenLength n h, .string message]) =
      .ok ⟨writtenLength n h, some message⟩ := rfl
  exact readLength_eq_ok hclause (length?_writtenLength hprecise)

end WrittenLengths

/-- A trimmed text. -/
def sloganDefinition : FieldDefinition :=
  { type := .kind .string, constraints := [("trim", .bool true), ("color", .string "red")] }

/-- Two spellings of the least length, the one that came in second used again after the other. -/
def sloganCalls : List (String × Json) :=
  [("min_length", writtenLength 1), ("minLength", writtenLength 2),
    ("max_length", writtenLength 8), ("min_length", writtenLength 5),
    ("minLength", .array [writtenLength 4, .string "too short"])]

theorem resolveField_restate_slogan :
    (resolveField {} .builtin "slogan" sloganDefinition).result =
        .ok ⟨.builtin .string, { coerce := true, trim := true }⟩ ∧
      StateLengths sloganCalls ∧
      (resolveField {} .builtin "slogan" (sloganDefinition.restate sloganCalls)).result =
        .ok ⟨.builtin .string, { coerce := true, trim := true
                                 minLength := some ⟨4, some "too short"⟩
                                 maxLength := some ⟨8, none⟩ }⟩ := by
  have hresolved : (resolveField {} .builtin "slogan" sloganDefinition).result =
      .ok ⟨.builtin .string, { coerce := true, trim := true }⟩ := rfl
  have hfree : FreeOfLengths sloganDefinition.constraints := by
    intro constraint hmem key hkey
    rcases List.mem_cons.1 hmem with rfl | hmem
    · cases hkey
      rfl
    · obtain rfl := List.mem_singleton.1 hmem
      cases hkey
  have hprecise : ∀ n < 10, Binary64.Precise (n * Binary64.unitsPerOne) := fun n hn =>
    Binary64.precise_mul_unitsPerOne (Nat.lt_trans hn (by decide))
  have hcalls : StateLengths sloganCalls := by
    simp only [StateLengths, sloganCalls, List.forall_mem_cons]
    exact ⟨⟨.minLength, _, rfl, rfl, readLength_writtenLength (hprecise 1 (by decide))⟩,
      ⟨.minLength, _, rfl, rfl, readLength_writtenLength (hprecise 2 (by decide))⟩,
      ⟨.maxLength, _, rfl, rfl, readLength_writtenLength (hprecise 8 (by decide))⟩,
      ⟨.minLength, _, rfl, rfl, readLength_writtenLength (hprecise 5 (by decide))⟩,
      ⟨.minLength, _, rfl, rfl, readLength_withMessage (hprecise 4 (by decide)) "too short"⟩,
      fun call hcall => absurd hcall List.not_mem_nil⟩
  obtain ⟨field', hfield', hsame, hbounds⟩ := resolveField_restate hresolved hfree hcalls
  have hleast : field'.facets.lengthBound? .minLength = some ⟨4, some "too short"⟩ := by
    refine (hbounds .minLength rfl _).1.2 ⟨"minLength", _, ⟨rfl, rfl, ?_⟩,
      readLength_withMessage (hprecise 4 (by decide)) "too short"⟩
    refine ⟨[("min_length", writtenLength 1)], writtenLength 2, _, rfl, by decide, ?_⟩
    simp only [List.forall_mem_cons]
    exact ⟨nofun, fun _ => Or.inr List.mem_cons_self, fun _ => Or.inl trivial,
      fun call hcall => absurd hcall List.not_mem_nil⟩
  have hmost : field'.facets.lengthBound? .maxLength = some ⟨8, none⟩ := by
    refine (hbounds .maxLength rfl _).2 [_, _] "max_length" _ [_, _] rfl rfl ?_ ?_
      (readLength_writtenLength (hprecise 8 (by decide)))
    · simp only [List.forall_mem_cons]
      exact ⟨by decide, by decide, fun call hcall => absurd hcall List.not_mem_nil⟩
    · exact Or.inl (by decide)
  refine ⟨hresolved, hcalls, ?_⟩
  rw [hfield', hsame]
  simp only [Facets.lengthBound?] at hleast hmost
  simp only [Facets.withLengths, hleast, hmost]

/-- The last of three calls on one bound has no effect, because its spelling is the older one: the
bound stays at the value of the second call. -/
theorem exists_resolveField_overruled :
    ∃ calls field, (∀ call ∈ calls, ConstraintKey.ofText? call.1 = some .minLength) ∧
      StateLengths calls ∧ calls.getLast? = some ("minLength", writtenLength 3) ∧
      readLength (writtenLength 3) = .ok ⟨3, none⟩ ∧
      (resolveField {} .builtin "f"
        (FieldDefinition.restate { type := .kind .string } calls)).result = .ok field ∧
      field.facets.minLength = some ⟨2, none⟩ := by
  have hread : ∀ (n : Nat) (h : Json.InIntegerRange n), n < 10 →
      readLength (writtenLength n h) = .ok ⟨n, none⟩ := fun n h hn =>
    readLength_writtenLength (Binary64.precise_mul_unitsPerOne (Nat.lt_trans hn (by decide)))
  refine ⟨[("minLength", writtenLength 1), ("min_length", writtenLength 2),
    ("minLength", writtenLength 3)], ⟨.builtin .string,
      { coerce := true, minLength := some ⟨2, none⟩ }⟩, ?_, ?_, rfl, hread 3 _ (by decide),
      ?_, rfl⟩
  · simp only [List.forall_mem_cons]
    exact ⟨rfl, rfl, rfl, fun call hcall => absurd hcall List.not_mem_nil⟩
  · simp only [StateLengths, List.forall_mem_cons]
    exact ⟨⟨.minLength, _, rfl, rfl, hread 1 _ (by decide)⟩,
      ⟨.minLength, _, rfl, rfl, hread 2 _ (by decide)⟩,
      ⟨.minLength, _, rfl, rfl, hread 3 _ (by decide)⟩,
      fun call hcall => absurd hcall List.not_mem_nil⟩
  · have happly : ∀ (n : Nat) (h : Json.InIntegerRange n) (facets : Facets), n < 10 →
        facets.apply false .minLength (writtenLength n h) =
          .ok { facets with minLength := some ⟨n, none⟩ } := by
      intro n h facets hn
      simp only [Facets.apply, hread n h hn]
      rfl
    -- The third call gives its value in the place of the first, ahead of the second.
    have hconstraints : (FieldDefinition.restate { type := .kind .string }
        [("minLength", writtenLength 1), ("min_length", writtenLength 2),
          ("minLength", writtenLength 3)]).constraints =
        [("minLength", writtenLength 3), ("min_length", writtenLength 2)] := rfl
    refine resolveField_eq_ok_iff.2 ⟨rfl, { coerce := true, minLength := some ⟨2, none⟩ }, ?_, rfl⟩
    rw [hconstraints]
    have hdated : (FieldType.builtin .string).isDated = false := rfl
    simp only [hdated, resolveConstraints, ConstraintKey.ofText?, 
      happly 3 _ _ (by decide), happly 2 _ _ (by decide), Noted.bind_result]
    rfl

end Conform
