import Conform.Proofs.Rebuilding

/-!
# What a write leaves alone

Entries are written one after the other, and each of them is to be found in the end.  This file
defines:

* `Json.standing`: the value at the end of some steps, `null` where there is none;
* `Apart`: two ways into a document that part at a member or at an item;
* `Json.Awaits`: a container that leaves a member or an item of it to be written later;
* `Writes.Ordered`: writes each of which leaves what is written later alone.

The main statements are `Writes.Ordered.at?_writeAll`, that of ordered writes a value that awaits
nothing is found where it was written, and `at?_rebuild_append`, what one more entry of any log
changes and what it leaves alone.
-/

namespace Conform

namespace Json

/-! ## Walking after a write -/

/-- The value at the end of the steps; `null` where there is none. -/
def standing (document : Json) (steps : List Segment) : Json := (document.at? steps).getD null

theorem at?_append (document : Json) (first second : List Segment) :
    document.at? (first ++ second) = (document.at? first).bind (·.at? second) := by
  induction first generalizing document with
  | nil => rfl
  | cons step rest ih =>
      cases hstep : document.step? step with
      | none => simp [at?, hstep]
      | some part => simpa [at?, hstep] using ih part

@[simp] theorem standing_nil (document : Json) : document.standing [] = document := rfl

theorem standing_null (steps : List Segment) : null.standing steps = null := by
  cases steps with
  | nil => rfl
  | cons step rest => cases step <;> rfl

theorem standing_cons (document : Json) (step : Segment) (rest : List Segment) :
    document.standing (step :: rest) = ((document.step? step).getD null).standing rest := by
  cases hstep : document.step? step with
  | none =>
      have hnone : document.standing (step :: rest) = null := by simp [standing, at?, hstep]
      rw [hnone, Option.getD_none, standing_null]
  | some part => simp [standing, at?, hstep]

theorem lookup_membersOrNone (document : Json) (name : String) :
    lookup name document.membersOrNone = document.step? (.key name) := by
  cases document <;> rfl

theorem getD_itemsUpTo (document : Json) (position : Nat) :
    (document.itemsUpTo position)[position]?.getD null =
      (document.step? (.index position)).getD null := by
  have hitems : document.step? (.index position) = document.itemsOrNone[position]? := by
    cases document <;> simp [step?, items?, itemsOrNone]
  rw [hitems, itemsUpTo_eq]
  rcases Nat.lt_or_ge position document.itemsOrNone.length with hlt | hge
  · rw [List.getElem?_append_left hlt]
  · -- What is filled in is as good as nothing.
    rw [List.getElem?_append_right hge, List.getElem?_eq_none hge, List.getElem?_replicate]
    split <;> rfl

theorem length_itemsUpTo (document : Json) (position : Nat) :
    position < (document.itemsUpTo position).length := by
  rw [itemsUpTo_eq, List.length_append, List.length_replicate]
  omega

/-- A write below a step changes the part that the step leads to. -/
theorem step?_writeAt (document : Json) (step : Segment) (rest : List Segment) (value : Json) :
    (document.writeAt (step :: rest) value).step? step =
      some (((document.step? step).getD null).writeAt rest value) := by
  cases step with
  | key name =>
      simp only [writeAt, step?, get?, members?, Option.bind_some, lookup_insert_self,
        lookup_membersOrNone]
  | index position =>
      have hlength := document.length_itemsUpTo position
      simp only [writeAt, getD_itemsUpTo]
      simp [step?, items?, hlength]

/-- A write at the end of some steps is found there, in the form in which it took its place. -/
theorem at?_writeAt_self (document : Json) (steps : List Segment) (value : Json) :
    (document.writeAt steps value).at? steps = some (place (document.standing steps) value) := by
  induction steps generalizing document with
  | nil => rfl
  | cons step rest ih =>
      calc
        (document.writeAt (step :: rest) value).at? (step :: rest)
            = (((document.step? step).getD null).writeAt rest value).at? rest := by
              rw [at?, step?_writeAt, Option.bind_some]
        _ = some (place (((document.step? step).getD null).standing rest) value) := ih _
        _ = some (place (document.standing (step :: rest)) value) := by rw [standing_cons]

end Json

/-! ## Ways that part -/

/-- Two ways that part at a member or at an item. -/
inductive Apart : List Segment → List Segment → Prop where
  | key {name other : String} (h : name ≠ other) (first second : List Segment) :
      Apart (.key name :: first) (.key other :: second)
  | index {position other : Nat} (h : position ≠ other) (first second : List Segment) :
      Apart (.index position :: first) (.index other :: second)
  | step (step : Segment) {first second : List Segment} (h : Apart first second) :
      Apart (step :: first) (step :: second)

namespace Apart

theorem symm {first second : List Segment} (h : Apart first second) : Apart second first := by
  induction h with
  | key h first second => exact key h.symm second first
  | index h first second => exact index h.symm second first
  | step s _ ih => exact step s ih

theorem under (base : List Segment) {first second : List Segment} (h : Apart first second) :
    Apart (base ++ first) (base ++ second) := by
  induction base with
  | nil => exact h
  | cons s rest ih => exact step s ih

/-- Of two ways that part neither goes on where the other ends. -/
theorem not_append {first rest : List Segment} : ¬ Apart first (first ++ rest) := by
  induction first with
  | nil =>
      intro h
      cases h
  | cons s first ih =>
      intro h
      cases h with
      | key h => exact h rfl
      | index h => exact h rfl
      | step _ h => exact ih h

end Apart

namespace Json

theorem step?_writeAt_key {name other : String} (h : name ≠ other) (document : Json)
    (rest : List Segment) (value : Json) :
    (document.writeAt (.key name :: rest) value).step? (.key other) =
      document.step? (.key other) := by
  have hlookup := lookup_insert_of_ne h.symm
    (((lookup name document.membersOrNone).getD null).writeAt rest value) document.membersOrNone
  rw [lookup_membersOrNone document other] at hlookup
  simpa [writeAt, step?, get?, members?] using hlookup

/-- A write below an item keeps the other items. -/
theorem step?_writeAt_index {position other : Nat} (h : position ≠ other) {document part : Json}
    (hpart : document.step? (.index other) = some part) (rest : List Segment) (value : Json) :
    (document.writeAt (.index position :: rest) value).step? (.index other) = some part := by
  cases document with
  | array items =>
      have hitem : items[other]? = some part := hpart
      have hlength : other < items.length := (List.getElem?_eq_some_iff.1 hitem).1
      simp [writeAt, step?, items?, itemsUpTo, h, List.getElem?_append_left hlength, hitem]
  | null | bool _ | number _ | string _ | object _ => cases hpart

/-- A write below an item adds nothing elsewhere but what fills the array up to it. -/
theorem getD_step?_writeAt_index {position other : Nat} (h : position ≠ other) (document : Json)
    (rest : List Segment) (value : Json) :
    ((document.writeAt (.index position :: rest) value).step? (.index other)).getD null =
      (document.step? (.index other)).getD null := by
  cases hpart : document.step? (.index other) with
  | some part => rw [step?_writeAt_index h hpart]
  | none =>
      have hitems : document.itemsOrNone[other]? = none := by
        cases document with
        | array items => exact hpart
        | null | bool _ | number _ | string _ | object _ => rfl
      have hlength := List.getElem?_eq_none_iff.1 hitems
      simp only [writeAt, step?, items?, Option.bind_some, itemsUpTo_eq, Option.getD_none]
      rw [List.getElem?_set_ne h, List.getElem?_append_right hlength, List.getElem?_replicate]
      split <;> rfl

/-- What stands apart from a write is found as before. -/
theorem at?_writeAt_of_apart {steps other : List Segment} (h : Apart steps other)
    {document found : Json} (hfound : document.at? other = some found) (value : Json) :
    (document.writeAt steps value).at? other = some found := by
  induction h generalizing document with
  | key hne first second =>
      have hstep := step?_writeAt_key hne document first value
      rw [at?, hstep]
      exact hfound
  | index hne first second =>
      rcases Option.bind_eq_some_iff.1 hfound with ⟨part, hpart, hrest⟩
      rw [at?, step?_writeAt_index hne hpart]
      exact hrest
  | step s _ ih =>
      rcases Option.bind_eq_some_iff.1 hfound with ⟨part, hpart, hrest⟩
      rw [at?, step?_writeAt, hpart]
      exact ih hrest

/-- Where nothing stands, a write elsewhere leaves nothing. -/
theorem standing_writeAt_of_apart {steps other : List Segment} (h : Apart steps other)
    (document value : Json) :
    (document.writeAt steps value).standing other = document.standing other := by
  induction h generalizing document with
  | key hne first second =>
      rw [standing_cons, step?_writeAt_key hne, ← standing_cons]
  | index hne first second =>
      rw [standing_cons, getD_step?_writeAt_index hne, ← standing_cons]
  | step s _ ih =>
      rw [standing_cons, step?_writeAt, Option.getD_some, ih, ← standing_cons]

/-! ## Containers ahead of their parts -/

/-- A container that leaves what a step leads to in it to be written later. -/
def Awaits : Json → Segment → Prop
  | object members, .key name => lookup name members = none
  | array items, .index _ => items = []
  | _, _ => False

theorem lookup_mergeMembers {key : String} {incoming : List (String × Json)}
    (h : lookup key incoming = none) (members : List (String × Json)) :
    lookup key (mergeMembers members incoming) = lookup key members := by
  induction incoming generalizing members with
  | nil => rfl
  | cons member rest ih =>
      rcases member with ⟨name, value⟩
      have hne : name ≠ key := by
        rintro rfl
        simp [lookup] at h
      have hrest : lookup key rest = none := by simpa [lookup, hne] using h
      unfold mergeMembers
      split
      · exact ih hrest members
      · rw [ih hrest, lookup_append]
        simp [lookup, hne]

/-- A container that is written over a value changes no part that it awaits. -/
theorem step?_place {value : Json} {step : Segment} (h : value.Awaits step) (old : Json) :
    (place old value).step? step = old.step? step := by
  cases value with
  | object incoming =>
      cases step with
      | key name =>
          have hnone : lookup name incoming = none := h
          cases old with
          | object members => exact lookup_mergeMembers hnone members
          | null | bool _ | number _ | string _ | array _ => exact hnone
      | index position => exact absurd h id
  | array items =>
      cases step with
      | key name => exact absurd h id
      | index position =>
          obtain rfl : items = [] := h
          cases old <;> rfl
  | null | bool _ | number _ | string _ => exact absurd h (by cases step <;> exact id)

/-- A container that is written ahead of a part leaves the part as it was. -/
theorem at?_writeAt_of_awaits {value : Json} {step : Segment} (h : value.Awaits step)
    (document : Json) (steps rest : List Segment) :
    (document.writeAt steps value).at? (steps ++ step :: rest) =
      document.at? (steps ++ step :: rest) := by
  have hself := document.at?_writeAt_self steps value
  have hpart : ∀ old : Json, (place old value).at? (step :: rest) = old.at? (step :: rest) := by
    intro old
    rw [at?, at?, step?_place h]
  rw [at?_append, at?_append, hself, Option.bind_some, hpart]
  cases hold : document.at? steps with
  | some old => simp [standing, hold]
  | none =>
      have hnull : document.standing steps = null := by simp [standing, hold]
      rw [hnull, Option.bind_none]
      cases step <;> rfl

end Json

/-! ## Ordered writes -/

/-- The first write leaves alone what the second one writes. -/
def Before (first second : List Segment × Json) : Prop :=
  Apart first.1 second.1 ∨
    ∃ step rest, second.1 = first.1 ++ step :: rest ∧ first.2.Awaits step

/-- Writes each of which leaves alone what is written later. -/
def Writes.Ordered (writes : Writes) : Prop := writes.Pairwise Before

namespace Before

variable {first second : List Segment × Json}

theorem steps_ne (h : Before first second) : first.1 ≠ second.1 := by
  intro heq
  rcases h with hapart | ⟨step, rest, hsteps, -⟩
  · have hself : Apart first.1 (first.1 ++ []) := by simpa [heq] using hapart
    exact Apart.not_append hself
  · have hlength := congrArg List.length (heq.trans hsteps)
    simp at hlength

/-- A write below another is not the earlier one. -/
theorem not_below (h : Before first second) {step : Segment} {rest : List Segment} :
    first.1 ≠ second.1 ++ step :: rest := by
  intro heq
  rcases h with hapart | ⟨step', rest', hsteps, -⟩
  · rw [heq] at hapart
    exact Apart.not_append hapart.symm
  · have hlength := congrArg List.length (heq.trans (congrArg (· ++ step :: rest) hsteps))
    simp at hlength

/-- A write above another awaits it. -/
theorem awaits (h : Before first second) {step : Segment} {rest : List Segment}
    (hbelow : second.1 = first.1 ++ step :: rest) : first.2.Awaits step := by
  rcases h with hapart | ⟨step', rest', hsteps, hawaits⟩
  · rw [hbelow] at hapart
    exact absurd hapart Apart.not_append
  · have hcons := List.append_cancel_left (hbelow.symm.trans hsteps)
    rw [(List.cons.inj hcons).1]
    exact hawaits

/-- The earlier of two writes changes nothing at the place of the later one. -/
theorem standing_writeAt (h : Before first second) (document : Json) :
    (document.writeAt first.1 first.2).standing second.1 = document.standing second.1 := by
  rcases h with hapart | ⟨step, rest, hsteps, hawaits⟩
  · exact Json.standing_writeAt_of_apart hapart document first.2
  · have hat := Json.at?_writeAt_of_awaits hawaits document first.1 rest
    rw [← hsteps] at hat
    exact congrArg (·.getD Json.null) hat

end Before

namespace Writes

/-- Earlier writes leave nothing at the place of a later one. -/
theorem standing_writeAll {writes : Writes} {write : List Segment × Json}
    (h : ∀ earlier ∈ writes, Before earlier write) (document : Json) :
    (document.writeAll writes).standing write.1 = document.standing write.1 := by
  induction writes generalizing document with
  | nil => rfl
  | cons first rest ih =>
      have hrest := ih (fun earlier hearlier => h earlier (List.mem_cons_of_mem _ hearlier))
        (document.writeAt first.1 first.2)
      calc
        (document.writeAll (first :: rest)).standing write.1
            = (document.writeAt first.1 first.2).standing write.1 := hrest
        _ = document.standing write.1 :=
              (h first List.mem_cons_self).standing_writeAt document

/-- What is found stays where it is when all later writes are apart from it. -/
theorem at?_writeAll_of_apart {writes : Writes} {steps : List Segment}
    (h : ∀ later ∈ writes, Apart later.1 steps) {document found : Json}
    (hfound : document.at? steps = some found) :
    (document.writeAll writes).at? steps = some found := by
  induction writes generalizing document with
  | nil => exact hfound
  | cons first rest ih =>
      have hfirst := Json.at?_writeAt_of_apart (h first List.mem_cons_self) hfound first.2
      exact ih (fun later hlater => h later (List.mem_cons_of_mem _ hlater)) hfirst

/-- Of ordered writes, a value that awaits nothing that is written is found where it was written,
if nothing stood there before all of them. -/
theorem Ordered.at?_writeAll {writes : Writes} (h : writes.Ordered) {write : List Segment × Json}
    (hwrite : write ∈ writes)
    (hleaf : ∀ later ∈ writes, ∀ step rest, later.1 = write.1 ++ step :: rest →
      ¬ write.2.Awaits step)
    {document : Json} (hvacant : document.standing write.1 = .null) :
    (document.writeAll writes).at? write.1 = some write.2 := by
  rcases List.append_of_mem hwrite with ⟨before, after, rfl⟩
  rcases List.pairwise_append.1 h with ⟨-, hafter, hcross⟩
  have hearlier : (document.writeAll before).standing write.1 = .null := by
    have hstanding := standing_writeAll
      (fun earlier hmem => hcross earlier hmem write List.mem_cons_self) document
    rw [hstanding, hvacant]
  have hself : ((document.writeAll before).writeAt write.1 write.2).at? write.1 =
      some write.2 := by
    rw [Json.at?_writeAt_self, hearlier]
    rfl
  -- A later write is apart from this one, for it would otherwise be awaited.
  have hlater : ∀ later ∈ after, Apart later.1 write.1 := by
    intro later hmem
    rcases (List.pairwise_cons.1 hafter).1 later hmem with hapart | ⟨step, rest, hsteps, hawaits⟩
    · exact hapart.symm
    · have hmem' : later ∈ before ++ write :: after :=
        List.mem_append_right _ (List.mem_cons_of_mem _ hmem)
      exact absurd hawaits (hleaf later hmem' step rest hsteps)
  rw [Json.writeAll_append]
  exact at?_writeAll_of_apart hlater hself

end Writes

/-! ## One more entry -/

namespace Json

/-- A value gives place to another unless both are containers of one kind. -/
theorem place_of_unlike {old value : Json}
    (hobject : ∀ members incoming, old = object members → value ≠ object incoming)
    (harray : ∀ items, old = array items → value ≠ array []) : place old value = value := by
  unfold place
  split
  · exact absurd rfl (hobject _ _ rfl)
  · exact absurd rfl (harray _ rfl)
  · rfl

/-- What is no `null` stands where it is found. -/
theorem at?_of_standing {document found : Json} {steps : List Segment} (hfound : found ≠ null)
    (h : document.standing steps = found) : document.at? steps = some found := by
  unfold standing at h
  cases hat : document.at? steps with
  | none =>
      rw [hat] at h
      exact absurd h.symm hfound
  | some part =>
      rw [hat] at h
      exact congrArg some h

end Json

/-- One more entry is found at its path, merged into what stood there if both are containers of one
kind: an object gains the members that it lacks, and an array keeps its items under an empty one.
What stands apart from the path is found as before. -/
theorem at?_rebuild_append (entries : Entries) (path : String) {value : Json}
    (hvalue : value.WellFormed) :
    (∀ members incoming, (rebuild entries).at? (tokenize path) = some (.object members) →
      value = .object incoming →
      (rebuild (entries ++ [(path, value)])).at? (tokenize path) =
        some (.object (members ++
          incoming.filter fun member => (Json.lookup member.1 members).isNone))) ∧
      (∀ items, (rebuild entries).at? (tokenize path) = some (.array items) → value = .array [] →
        (rebuild (entries ++ [(path, value)])).at? (tokenize path) = some (.array items)) ∧
      ((∀ members incoming, (rebuild entries).at? (tokenize path) = some (.object members) →
          value ≠ .object incoming) →
        (∀ items, (rebuild entries).at? (tokenize path) = some (.array items) →
          value ≠ .array []) →
        (rebuild (entries ++ [(path, value)])).at? (tokenize path) = some value) ∧
      ∀ steps found, Apart (tokenize path) steps → (rebuild entries).at? steps = some found →
        (rebuild (entries ++ [(path, value)])).at? steps = some found := by
  have hlast : rebuild (entries ++ [(path, value)]) =
      (rebuild entries).writeAt (tokenize path) value := List.foldl_concat _ _ _ _
  have hself := (rebuild entries).at?_writeAt_self (tokenize path) value
  rw [hlast]
  refine ⟨?_, ?_, ?_, fun steps found hapart hfound => Json.at?_writeAt_of_apart hapart hfound _⟩
  · rintro members incoming hfound rfl
    rw [hself, Json.standing, hfound,
      ← Json.mergeMembers_eq_filter (Json.everywhere_object.1 hvalue).1]
    rfl
  · rintro items hfound rfl
    rw [hself, Json.standing, hfound]
    rfl
  · intro hobject harray
    rw [hself, Json.place_of_unlike]
    · intro members incoming hold
      exact hobject members incoming (Json.at?_of_standing nofun hold)
    · intro items hold
      exact harray items (Json.at?_of_standing nofun hold)

/-- An item far behind the end of its array, and an object at a path with needless punctuation. -/
def scatteredLog : Entries := [("list[2]", .string "far"), ("a..[b]", .object [("k", .null)])]

/-- One member that `scatteredLog` writes already, and one that it does not. -/
def lateMembers : List (String × Json) := [("k", .bool true), ("l", .bool false)]

theorem at?_rebuild_append_scattered :
    (Json.object lateMembers).WellFormed ∧
      (rebuild (scatteredLog ++ [("a.b", .object lateMembers)])).at? (tokenize "a.b") =
        some (.object [("k", .null), ("l", .bool false)]) ∧
      (rebuild (scatteredLog ++ [("a.b", .object lateMembers)])).at? [.key "list", .index 2] =
        some (.string "far") := by
  have hform : (Json.object lateMembers).WellFormed := by
    simp [lateMembers, Json.WellFormed, Json.Everywhere, Json.EverywhereMembers, Json.IsTidy]
  obtain ⟨hobject, -, -, hframe⟩ := at?_rebuild_append scatteredLog "a.b" hform
  refine ⟨hform, hobject [("k", .null)] lateMembers rfl rfl, hframe _ _ ?_ rfl⟩
  exact Apart.key (by decide) [.key "b"] [.index 2]

end Conform
