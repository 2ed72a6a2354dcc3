import Conform.Proofs.Addresses
import Conform.Proofs.Layout
import Conform.Proofs.Tolerance
import Mathlib.Data.List.TakeWhile

/-!
# What defaults draw

A field may draw what stands in for an absent value from a generator, which hands out its outputs
one after the other and never looks back.  This file defines:

* `Visit.fills`: a visit to the field at a place of the tree, where the field coerces and has no
  value, and `Schema.fillings`: all of them that a document comes to;
* `Node.Serves`: a generator from which the field at a place draws, and no other field;
* `drawnEntries`: consecutive outputs under the paths of visits;
* `Schema.filled`: the entries of a log at the paths of fillings.

The main statement is `validate_draws_in_turn`: a run draws once for each filling and for nothing
else, in the order of the visits, and one run after the other writes consecutive outputs.
-/

namespace Conform

/-! ## Fillings -/

/-- The step down a tree that a step into a document follows. -/
def Segment.treeStep : Segment → TreeStep
  | .key name => .member name
  | .index _ => .items

def Visit.treeSteps (visit : Visit) : List TreeStep := visit.steps.map Segment.treeStep

/-- Whether a visit is to the field at a place of the tree, where it coerces and has no value. -/
def Visit.fills (place : List TreeStep) (visit : Visit) : Bool :=
  match visit.task with
  | .field f none => f.facets.coerce && decide (visit.treeSteps = place)
  | _ => false

/-- The visits up to the first in whose place something is wrong. -/
def passedVisits (tolerant : Bool) (visits : List Visit) : List Visit :=
  visits.takeWhile (·.violation? tolerant |>.isNone)

theorem passedVisits_eq_self {tolerant : Bool} {visits : List Visit}
    (h : ∀ visit ∈ visits, visit.violation? tolerant = none) :
    passedVisits tolerant visits = visits := by
  refine List.takeWhile_eq_self_iff.2 fun visit hvisit => ?_
  rw [h visit hvisit]
  rfl

/-- The visits of a document at which the field at a place has no value and coerces, up to the first
violation. -/
def Schema.fillings (schema : Schema) (place : List TreeStep) (document : Json) : List Visit :=
  (passedVisits schema.options.partialInput (rootVisits schema.members document)).filter
    (Visit.fills place)

/-- A generator serves the field at a place of a tree, and no field at another place. -/
structure Node.Serves (root : Node) (generator : Nat) (outputs : Nat → Json)
    (place : List TreeStep) : Prop where
  draws : ∃ f, root.follow? place = some (.field f) ∧
    f.facets.default = some (.drawn generator outputs)
  alone : ∀ other f outputs', root.follow? other = some (.field f) →
    f.facets.default = some (.drawn generator outputs') → other = place

/-- Where a document leads, the tree leads by the same names. -/
theorem Node.follow?_of_place? {node target : Node} {value reached : Option Json}
    {steps : List Segment} (h : node.place? value steps = some (target, reached)) :
    node.follow? (steps.map Segment.treeStep) = some target := by
  induction steps generalizing node value with
  | nil =>
      rw [place?_nil] at h
      cases h
      rfl
  | cons step rest ih =>
      rw [List.map_cons, follow?_cons]
      cases step with
      | key name =>
          obtain ⟨members, child, rfl, hchild, hrest⟩ := place?_key_eq_some h
          exact Option.bind_eq_some_iff.2 ⟨child, hchild, ih hrest⟩
      | index position =>
          obtain ⟨item, items, element, rfl, -, -, -, hrest⟩ := place?_index_eq_some h
          exact Option.bind_eq_some_iff.2 ⟨item, rfl, ih hrest⟩

/-! ## One visit -/

/-- A visit draws from a generator just where it is to the field at a place. -/
def Visit.DrawsAt (generator : Nat) (outputs : Nat → Json) (place : List TreeStep)
    (visit : Visit) : Prop :=
  ∀ f value, visit.task = .field f value →
    (visit.treeSteps = place → f.facets.default = some (.drawn generator outputs)) ∧
      ∀ outputs', f.facets.default = some (.drawn generator outputs') → visit.treeSteps = place

section Visits

variable {g : Nat} {outputs : Nat → Json} {place : List TreeStep} {tolerant : Bool}

theorem Node.Serves.drawsAt {members : List (String × Node)}
    (h : (Node.object members).Serves g outputs place)
    (hnames : (Node.object members).Everywhere Node.HasPathNames) {document : Json} {visit : Visit}
    (hvisit : visit ∈ rootVisits members document) : visit.DrawsAt g outputs place := by
  rcases visit with ⟨steps, task⟩
  rintro f value rfl
  have hsteps : (Node.object members).follow? (steps.map Segment.treeStep) = some (.field f) :=
    Node.follow?_of_place? (place?_of_mem_rootVisits hnames hvisit)
  refine ⟨fun hplace => ?_, fun outputs' hdefault => h.alone _ f outputs' hsteps hdefault⟩
  obtain ⟨f', hfield, hdefault⟩ := h.draws
  have hsame : some (Node.field f) = some (Node.field f') := by
    rw [← hsteps, ← hfield, ← hplace]
    rfl
  cases hsame
  exact hdefault

/-- A filling writes the next output of the generator. -/
theorem Visit.run_of_fills {visit : Visit} (h : visit.DrawsAt g outputs place)
    (hfills : visit.fills place = true) (draws : Draws) :
    (visit.run tolerant).outcome draws =
      (.ok [(visit.path, outputs (draws g))], fun k => if k = g then draws k + 1 else draws k) := by
  rcases visit with ⟨steps, task⟩
  cases task with
  | field f value =>
      cases value with
      | some given => cases hfills
      | none =>
          obtain ⟨hcoerce, hplace⟩ := Bool.and_eq_true_iff.1 hfills
          have hdefault := (h f none rfl).1 (of_decide_eq_true hplace)
          have hcoerce : f.facets.coerce = true := hcoerce
          simp only [Visit.run, Task.run, Field.check, Field.checkAbsent, hdefault, hcoerce]
          rfl
  | object _ | array _ | item _ => cases hfills

/-- Nothing else draws from the generator. -/
theorem Visit.drawn_of_not_fills {visit : Visit} (h : visit.DrawsAt g outputs place)
    (hfills : visit.fills place = false) (draws : Draws) :
    ((visit.run tolerant).outcome draws).2 g = draws g := by
  rcases visit with ⟨steps, task⟩
  cases task with
  | field f value =>
      cases value with
      | some given =>
          simp only [Visit.run, Task.run, Field.check]
          cases f.checkPresent (Visit.path ⟨steps, .field f (some given)⟩) given <;> rfl
      | none =>
          simp only [Visit.run, Task.run, Field.check, Field.checkAbsent]
          split
          · next default hdefault hcoerce =>
              cases default with
              | fixed value => rfl
              | drawn other outputs' =>
                  have hne : g ≠ other := by
                    rintro rfl
                    have hplace := (h f none rfl).2 outputs' hdefault
                    simp [fills, hcoerce, hplace] at hfills
                  exact if_neg hne
          · split <;> rfl
  | object _ => rfl
  | array value =>
      simp only [Visit.run, Task.run]
      split
      · rfl
      · cases value <;> rfl
  | item value =>
      simp only [Visit.run, Task.run]
      split
      · rfl
      · split <;> rfl

/-- A visit draws from the generator once if it is a filling, and not at all otherwise. -/
theorem Visit.drawn_run {visit : Visit} (h : visit.DrawsAt g outputs place) (tolerant : Bool)
    (draws : Draws) :
    ((visit.run tolerant).outcome draws).2 g = draws g + (visit.fills place).toNat := by
  cases hfills : visit.fills place with
  | true =>
      rw [visit.run_of_fills h hfills]
      exact if_pos rfl
  | false => exact visit.drawn_of_not_fills h hfills draws

/-- Nothing is wrong where a default stands in. -/
theorem Visit.violation?_of_fills {visit : Visit} (h : visit.DrawsAt g outputs place)
    (hfills : visit.fills place = true) : visit.violation? tolerant = none := by
  have hrun := visit.violation?_run tolerant fun _ => 0
  rw [Run.violation?, visit.run_of_fills h hfills] at hrun
  exact hrun.symm

theorem Visit.fills_of_violation? {visit : Visit} (h : visit.DrawsAt g outputs place)
    {violation : Violation} (hwrong : visit.violation? tolerant = some violation) :
    visit.fills place = false := by
  cases hfills : visit.fills place with
  | false => rfl
  | true =>
      rw [visit.violation?_of_fills h hfills] at hwrong
      cases hwrong

/-! ## One visit after the other -/

/-- Visits draw from the generator once for each filling among them, up to the first violation. -/
theorem drawn_runVisits {visits : List Visit}
    (h : ∀ visit ∈ visits, visit.DrawsAt g outputs place) (tolerant : Bool) (draws : Draws) :
    ((runVisits tolerant visits).outcome draws).2 g =
      draws g + ((passedVisits tolerant visits).filter (Visit.fills place)).length := by
  induction visits generalizing draws with
  | nil => rfl
  | cons visit rest ih =>
      have hfirst := h visit List.mem_cons_self
      have hrest := ih fun other hother => h other (List.mem_cons_of_mem _ hother)
      have hdrawn := visit.drawn_run hfirst tolerant draws
      have hjudged := visit.violation?_run tolerant draws
      cases hverdict : visit.violation? tolerant with
      | some violation =>
          -- A visit that stops the run is no filling, and nothing comes after it.
          obtain ⟨after, hrun⟩ := Run.violation?_eq_some_iff.1 (hjudged.trans hverdict)
          have hpassed : passedVisits tolerant (visit :: rest) = [] := by
            simp [passedVisits, hverdict]
          rw [visit.fills_of_violation? hfirst hverdict, hrun] at hdrawn
          rw [runVisits, Run.outcome_bind, hrun, hpassed]
          exact hdrawn
      | none =>
          obtain ⟨written, after, hrun⟩ := Run.violation?_eq_none_iff.1 (hjudged.trans hverdict)
          have hpassed : passedVisits tolerant (visit :: rest) =
              visit :: passedVisits tolerant rest := by
            simp [passedVisits, hverdict]
          rw [hrun] at hdrawn
          rw [runVisits, Run.outcome_bind, hrun, hpassed]
          calc
            _ = ((runVisits tolerant rest).outcome after).2 g :=
                congrFun (Run.drawn_bind_pure _ (written ++ ·) after) g
            _ = draws g + (visit.fills place).toNat +
                  ((passedVisits tolerant rest).filter (Visit.fills place)).length := by
                rw [hrest after, ← hdrawn]
            _ = draws g + ((visit :: passedVisits tolerant rest).filter
                  (Visit.fills place)).length := by
                rw [List.filter_cons]
                cases visit.fills place with
                | true =>
                    rw [if_pos rfl, List.length_cons, Bool.toNat_true]
                    omega
                | false => rfl

/-- Consecutive outputs of a generator, under the paths of visits. -/
def drawnEntries (outputs : Nat → Json) : (start : Nat) → List Visit → Entries
  | _, [] => []
  | start, visit :: rest => (visit.path, outputs start) :: drawnEntries outputs (start + 1) rest

theorem keys_drawnEntries (outputs : Nat → Json) (start : Nat) (visits : List Visit) :
    (drawnEntries outputs start visits).map (·.1) = visits.map Visit.path := by
  induction visits generalizing start with
  | nil => rfl
  | cons visit rest ih => rw [drawnEntries, List.map_cons, List.map_cons, ih]

theorem values_drawnEntries (outputs : Nat → Json) (start : Nat) (visits : List Visit) :
    (drawnEntries outputs start visits).map (·.2) =
      (List.range' start visits.length).map outputs := by
  induction visits generalizing start with
  | nil => rfl
  | cons visit rest ih =>
      rw [drawnEntries, List.map_cons, ih, List.length_cons, List.range'_succ, List.map_cons]

open List in
/-- The log of visits holds consecutive outputs at the fillings, in the order of the visits. -/
theorem drawnEntries_sublist {visits : List Visit}
    (h : ∀ visit ∈ visits, visit.DrawsAt g outputs place) {draws drawn : Draws} {entries : Entries}
    (hrun : (runVisits tolerant visits).outcome draws = (.ok entries, drawn)) :
    drawnEntries outputs (draws g) (visits.filter (Visit.fills place)) <+ entries := by
  induction visits generalizing draws entries with
  | nil => exact List.nil_sublist _
  | cons visit rest ih =>
      obtain ⟨written, after, hvisit, hnext⟩ := Run.outcome_bind_eq_ok hrun
      obtain ⟨others, between, hothers, hlast⟩ := Run.outcome_bind_eq_ok hnext
      cases hlast
      have hfirst := h visit List.mem_cons_self
      have hrest := ih (fun other hother => h other (List.mem_cons_of_mem _ hother)) hothers
      have hdrawn := visit.drawn_run hfirst tolerant draws
      rw [hvisit] at hdrawn
      cases hfills : visit.fills place with
      | true =>
          rw [visit.run_of_fills hfirst hfills] at hvisit
          obtain rfl := Except.ok.inj (Prod.mk.inj hvisit).1
          have hafter : after g = draws g + 1 := by simpa [hfills] using hdrawn
          rw [hafter] at hrest
          rw [List.filter_cons_of_pos hfills]
          exact hrest.cons_cons _
      | false =>
          have hafter : after g = draws g := by simpa [hfills] using hdrawn
          rw [hafter] at hrest
          rw [List.filter_cons_of_neg (Bool.eq_false_iff.1 hfills)]
          exact hrest.trans (List.sublist_append_right written others)

open List in
/-- Where keys are listed once, a part of a log is found again by its keys. -/
theorem filter_keys_of_sublist {part entries : Entries} (h : part <+ entries)
    (hkeys : (entries.map (·.1)).Nodup) :
    entries.filter (fun entry => decide (entry.1 ∈ part.map (·.1))) = part := by
  induction h with
  | slnil => rfl
  | @cons part rest entry hrest ih =>
      obtain ⟨hnew, hkeys⟩ := List.nodup_cons.1 hkeys
      have hnot : entry.1 ∉ part.map (·.1) := fun hmem => hnew ((hrest.map _).subset hmem)
      rw [List.filter_cons_of_neg (by simpa using hnot)]
      exact ih hkeys
  | @cons_cons part rest entry hrest ih =>
      obtain ⟨hnew, hkeys⟩ := List.nodup_cons.1 hkeys
      rw [List.filter_cons_of_pos (by simp)]
      refine congrArg (entry :: ·) (Eq.trans (List.filter_congr ?_) (ih hkeys))
      intro other hother
      have hne : other.1 ≠ entry.1 := by
        intro heq
        exact hnew (List.mem_map.2 ⟨other, hother, heq⟩)
      simp [hne]

end Visits

/-! ## Whole documents -/

/-- The entries of a log at the paths where the default of a field stands in. -/
def Schema.filled (schema : Schema) (place : List TreeStep) (document : Json)
    (entries : Entries) : Entries :=
  entries.filter fun entry => decide (entry.1 ∈ (schema.fillings place document).map Visit.path)

section Documents

variable {options : Options} {registry : Registry} {definition : Definition} {schema : Schema}
  {g : Nat} {outputs : Nat → Json} {place : List TreeStep} {document : Json} {draws drawn : Draws}

theorem drawn_validateFlat
    (hschema : (resolve options registry definition).result = .ok schema.members)
    (hserves : schema.root.Serves g outputs place) (document : Json) (draws : Draws) :
    ((schema.validateFlat document).outcome draws).2 g =
      draws g + (schema.fillings place document).length := by
  have hvisits := drawn_runVisits
    (fun visit (hvisit : visit ∈ rootVisits schema.members document) =>
      hserves.drawsAt (resolve_hasPathNames hschema) hvisit) schema.options.partialInput draws
  rw [Schema.fillings, ← hvisits, Schema.validateFlat, checkRoot_eq_runVisits]
  exact congrFun (Run.drawn_bind_pure _ _ draws) g

/-- Bringing a document to its form draws nothing more. -/
theorem drawn_validate (schema : Schema) (document : Json) (draws : Draws) :
    ((schema.validate document).outcome draws).2 =
      ((schema.validateFlat document).outcome draws).2 :=
  Run.drawn_bind_pure _ _ draws

/-- A document that passes is visited to its end. -/
theorem fillings_of_validateFlat {entries : Entries}
    (h : (schema.validateFlat document).outcome draws = (.ok entries, drawn)) :
    schema.fillings place document =
      (rootVisits schema.members document).filter (Visit.fills place) := by
  rw [Schema.fillings, passedVisits_eq_self (violation?_eq_none_of_validateFlat h)]

open List in
theorem drawnEntries_sublist_log
    (hschema : (resolve options registry definition).result = .ok schema.members)
    (hserves : schema.root.Serves g outputs place) (hcoerce : schema.options.coerce = true)
    {entries : Entries} (h : (schema.validateFlat document).outcome draws = (.ok entries, drawn)) :
    drawnEntries outputs (draws g) (schema.fillings place document) <+ entries := by
  rw [fillings_of_validateFlat h]
  obtain ⟨written, between, hruns, hlast⟩ := Run.outcome_bind_eq_ok h
  rw [hcoerce] at hlast
  cases hlast
  rw [checkRoot_eq_runVisits] at hruns
  exact drawnEntries_sublist
    (fun visit hvisit => hserves.drawsAt (resolve_hasPathNames hschema) hvisit) hruns

/-- The log of a document that passes holds consecutive outputs at the fillings, in order. -/
theorem filled_validateFlat
    (hschema : (resolve options registry definition).result = .ok schema.members)
    (hserves : schema.root.Serves g outputs place) (hcoerce : schema.options.coerce = true)
    (hdocument : document.WellFormed) {entries : Entries}
    (h : (schema.validateFlat document).outcome draws = (.ok entries, drawn)) :
    schema.filled place document entries =
      drawnEntries outputs (draws g) (schema.fillings place document) := by
  have hsublist := drawnEntries_sublist_log hschema hserves hcoerce h
  have hlaid := validateFlat_laidOut hschema hcoerce hdocument h
  rw [Schema.filled, ← keys_drawnEntries outputs (draws g)]
  exact filter_keys_of_sublist hsublist hlaid.nodup

/-- What is drawn for a place is found there in the document that is rebuilt. -/
theorem at?_of_mem_drawnEntries
    (hschema : (resolve options registry definition).result = .ok schema.members)
    (hserves : schema.root.Serves g outputs place) (hcoerce : schema.options.coerce = true)
    (hdocument : document.WellFormed) {result : Json}
    (h : (schema.validate document).outcome draws = (.ok result, drawn)) {entry : String × Json}
    (hentry : entry ∈ drawnEntries outputs (draws g) (schema.fillings place document)) :
    result.at? (tokenize entry.1) = some entry.2 := by
  have hnames := resolve_hasPathNames hschema
  obtain ⟨entries, between, hflat, hlast⟩ := Run.outcome_bind_eq_ok h
  rw [hcoerce] at hlast
  cases hlast
  have hlaid := validateFlat_laidOut hschema hcoerce hdocument hflat
  have hwritten := (drawnEntries_sublist_log hschema hserves hcoerce hflat).subset hentry
  -- The path of the entry is that of a visit to a field.
  have hpath : entry.1 ∈ (schema.fillings place document).map Visit.path := by
    rw [← keys_drawnEntries outputs (draws g)]
    exact List.mem_map.2 ⟨entry, hentry, rfl⟩
  obtain ⟨visit, hfilling, hvisit⟩ := List.mem_map.1 hpath
  obtain ⟨hpassed, hfills⟩ := List.mem_filter.1 hfilling
  have hroot : visit ∈ rootVisits schema.members document :=
    (List.takeWhile_sublist _).subset hpassed
  have hsteps := tokenize_path_of_mem_rootVisits hnames hdocument hroot
  rcases visit with ⟨steps, task⟩
  cases task with
  | field f value =>
      refine hlaid.found entry hwritten (.field f) value ?_ (Or.inl rfl)
      rw [← hvisit, hsteps]
      exact place?_of_mem_rootVisits hnames hroot
  | object _ | array _ | item _ => cases hfills

/-- One run after the other writes consecutive outputs. -/
theorem filled_mapM_validateFlat
    (hschema : (resolve options registry definition).result = .ok schema.members)
    (hserves : schema.root.Serves g outputs place) (hcoerce : schema.options.coerce = true)
    {documents : List Json} (hdocuments : ∀ document ∈ documents, document.WellFormed)
    {logs : List Entries}
    (h : (documents.mapM schema.validateFlat).outcome draws = (.ok logs, drawn)) :
    ∃ n, drawn g = draws g + n ∧
      (List.zipWith (schema.filled place) documents logs).flatten.map (·.2) =
        (List.range' (draws g) n).map outputs := by
  induction documents generalizing draws logs with
  | nil =>
      cases h
      exact ⟨0, rfl, rfl⟩
  | cons document rest ih =>
      rw [List.mapM_cons] at h
      obtain ⟨entries, after, hfirst, hnext⟩ := Run.outcome_bind_eq_ok h
      obtain ⟨others, between, hothers, hlast⟩ := Run.outcome_bind_eq_ok hnext
      cases hlast
      have hafter : after g = draws g + (schema.fillings place document).length := by
        rw [← drawn_validateFlat hschema hserves document draws, hfirst]
      have hfilled := filled_validateFlat hschema hserves hcoerce
        (hdocuments document List.mem_cons_self) hfirst
      obtain ⟨n, hdrawn, hvalues⟩ :=
        ih (fun other hother => hdocuments other (List.mem_cons_of_mem _ hother)) hothers
      refine ⟨(schema.fillings place document).length + n, ?_, ?_⟩
      · rw [hdrawn, hafter, Nat.add_assoc]
      · rw [List.zipWith_cons_cons, List.flatten_cons, List.map_append, hvalues, hfilled,
          values_drawnEntries, hafter, ← List.map_append, List.range'_append_1]

/-- The visit that fills a place gets the output whose number counts the fillings before it. -/
theorem run_filling (hschema : (resolve options registry definition).result = .ok schema.members)
    (hserves : schema.root.Serves g outputs place) {before after : List Visit} {visit : Visit}
    (hvisits : rootVisits schema.members document = before ++ visit :: after)
    (hbefore : ∀ earlier ∈ before, earlier.violation? schema.options.partialInput = none)
    (hfills : visit.fills place = true) (draws : Draws) :
    ∃ written between drawn,
      (runVisits schema.options.partialInput before).outcome draws = (.ok written, between) ∧
        (visit.run schema.options.partialInput).outcome between =
          (.ok [(visit.path, outputs (draws g + (before.filter (Visit.fills place)).length))],
            drawn) := by
  have hdraws : ∀ other ∈ before ++ visit :: after, other.DrawsAt g outputs place := by
    rw [← hvisits]
    exact fun other hother => hserves.drawsAt (resolve_hasPathNames hschema) hother
  have hnone : (runVisits schema.options.partialInput before).violation? draws = none := by
    rw [violation?_runVisits, List.findSome?_eq_none_iff]
    exact hbefore
  obtain ⟨written, between, hruns⟩ := Run.violation?_eq_none_iff.1 hnone
  have hbetween := drawn_runVisits
    (fun other hother => hdraws other (List.mem_append_left _ hother))
    schema.options.partialInput draws
  rw [hruns, passedVisits_eq_self hbefore] at hbetween
  rw [← hbetween]
  exact ⟨written, between, _, hruns,
    visit.run_of_fills (hdraws visit (List.mem_append_right _ List.mem_cons_self)) hfills between⟩

end Documents

/-- A field that draws its default from a generator of its own draws once for each visit to it at
which it coerces and has no value, up to the first violation, and for nothing else; the output that
a visit gets counts the earlier ones.  Where a schema writes, the log of a run holds the outputs at
the paths of those visits, in order, as does the document that is made; and runs that pass one after
the other write consecutive outputs. -/
theorem validate_draws_in_turn {options : Options} {registry : Registry} {definition : Definition}
    {schema : Schema} (hschema : (resolve options registry definition).result = .ok schema.members)
    {generator : Nat} {outputs : Nat → Json} {place : List TreeStep}
    (hserves : schema.root.Serves generator outputs place) :
    (∀ document draws,
      ((schema.validate document).outcome draws).2 generator =
          draws generator + (schema.fillings place document).length ∧
        ((schema.validateFlat document).outcome draws).2 generator =
          draws generator + (schema.fillings place document).length) ∧
    (∀ document draws before visit after,
      rootVisits schema.members document = before ++ visit :: after →
        (∀ earlier ∈ before, earlier.violation? schema.options.partialInput = none) →
          visit.fills place = true →
            ∃ written between drawn,
              (runVisits schema.options.partialInput before).outcome draws =
                  (.ok written, between) ∧
                (visit.run schema.options.partialInput).outcome between =
                  (.ok [(visit.path, outputs (draws generator +
                    (before.filter (Visit.fills place)).length))], drawn)) ∧
    (schema.options.coerce = true → ∀ document, document.WellFormed → ∀ draws drawn,
      (∀ entries, (schema.validateFlat document).outcome draws = (.ok entries, drawn) →
        schema.filled place document entries =
          drawnEntries outputs (draws generator) (schema.fillings place document)) ∧
      ∀ result, (schema.validate document).outcome draws = (.ok result, drawn) →
        ∀ entry ∈ drawnEntries outputs (draws generator) (schema.fillings place document),
          result.at? (tokenize entry.1) = some entry.2) ∧
    (schema.options.coerce = true → ∀ documents : List Json,
      (∀ document ∈ documents, document.WellFormed) → ∀ draws logs drawn,
        (documents.mapM schema.validateFlat).outcome draws = (.ok logs, drawn) →
          ∃ n, drawn generator = draws generator + n ∧
            (List.zipWith (schema.filled place) documents logs).flatten.map (·.2) =
              (List.range' (draws generator) n).map outputs) := by
  refine ⟨fun document draws => ?_, ?_, ?_, ?_⟩
  · have hflat := drawn_validateFlat hschema hserves document draws
    rw [drawn_validate]
    exact ⟨hflat, hflat⟩
  · intro document draws before visit after hvisits hbefore hfills
    exact run_filling hschema hserves hvisits hbefore hfills draws
  · intro hcoerce document hdocument draws drawn
    exact ⟨fun entries h => filled_validateFlat hschema hserves hcoerce hdocument h,
      fun result h entry hentry =>
        at?_of_mem_drawnEntries hschema hserves hcoerce hdocument h hentry⟩
  · intro hcoerce documents hdocuments draws logs drawn h
    exact filled_mapM_validateFlat hschema hserves hcoerce hdocuments h

/-- A row of strokes. -/
def strokes (n : Nat) : Json := .string (String.ofList (List.replicate n '|'))

/-- Rows that are marked by strokes where they have no mark. -/
def tallyDefinition : Definition :=
  .object [("rows", .array [.object [
    ("mark", .field { type := .kind .string, default := some (.drawn 7 strokes) }),
    ("note", .type (.kind .string))]])]

def tallyMembers : List (String × Node) :=
  [("rows", .array (.object [
    ("mark", .field ⟨.builtin .string, { coerce := true, default := some (.drawn 7 strokes) }⟩),
    ("note", .field (.bare (.builtin .string)))]))]

/-- Three rows, the second of which has an empty mark. -/
def tallyDocument : Json :=
  .object [("rows", .array [.object [], .object [("mark", .string "")], .object []])]

def moreTallyDocument : Json := .object [("rows", .array [.object [("note", .string "a")]])]

/-- Three rows, the second of which is refused. -/
def badTallyDocument : Json :=
  .object [("rows", .array [.object [], .object [("note", .array [])], .object []])]

theorem validate_draws_in_turn_tally :
    (resolve {} .builtin tallyDefinition).result = .ok tallyMembers ∧
      (Node.object tallyMembers).Serves 7 strokes [.member "rows", .items, .member "mark"] ∧
      (∀ draws, (((Schema.mk {} tallyMembers).validate badTallyDocument).outcome draws).2 7 =
        draws 7 + 2) ∧
      ∃ logs drawn, ([tallyDocument, moreTallyDocument].mapM
          (Schema.mk {} tallyMembers).validateFlat).outcome (fun _ => 0) = (.ok logs, drawn) ∧
        drawn 7 = 3 ∧
        (List.zipWith ((Schema.mk {} tallyMembers).filled [.member "rows", .items, .member "mark"])
          [tallyDocument, moreTallyDocument] logs).flatten.map (·.2) =
            [strokes 0, strokes 1, strokes 2] := by
  have hresolve : (resolve {} .builtin tallyDefinition).result = .ok tallyMembers := rfl
  have hserves : (Node.object tallyMembers).Serves 7 strokes
      [.member "rows", .items, .member "mark"] := by
    refine ⟨⟨_, rfl, rfl⟩, ?_⟩
    intro other f outputs' hother hdefault
    have hmem := (Node.mem_fieldSteps (resolve_hasPathNames hresolve)).2 ⟨f, hother⟩
    have hsteps : (Node.object tallyMembers).fieldSteps =
        [[.member "rows", .items, .member "mark"], [.member "rows", .items, .member "note"]] := rfl
    rw [hsteps] at hmem
    rcases List.mem_cons.1 hmem with rfl | hmem
    · rfl
    · -- The other field has no default.
      obtain rfl := List.mem_singleton.1 hmem
      cases hother
      cases hdefault
  have hforms : ∀ document ∈ [tallyDocument, moreTallyDocument], document.WellFormed := by
    simp [tallyDocument, moreTallyDocument, Json.WellFormed, Json.Everywhere, Json.EverywhereItems,
      Json.EverywhereMembers, Json.IsTidy]
  obtain ⟨hcount, -, -, hturns⟩ :=
    @validate_draws_in_turn {} .builtin tallyDefinition ⟨{}, tallyMembers⟩ hresolve 7 strokes _
      hserves
  refine ⟨hresolve, hserves, fun draws => (hcount badTallyDocument draws).1, ?_⟩
  obtain ⟨logs, drawn, hruns, hthree⟩ : ∃ logs drawn, ([tallyDocument, moreTallyDocument].mapM
      (Schema.mk {} tallyMembers).validateFlat).outcome (fun _ => 0) = (.ok logs, drawn) ∧
        drawn 7 = 3 := ⟨_, _, rfl, rfl⟩
  obtain ⟨n, hdrawn, hvalues⟩ := hturns rfl _ hforms _ _ _ hruns
  obtain rfl : n = 3 := by omega
  exact ⟨logs, drawn, hruns, hthree, hvalues⟩

end Conform
