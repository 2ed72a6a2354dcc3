import Conform.Proofs.Resolved
import Mathlib.Data.List.Nodup

/-!
# The order of constraints

Constraints are read one after the other, and each writes the facet that its key speaks about.  What
it writes does not depend on the facets so far, so constraints of different keys can change places.
This file defines:

* `Facets.withPart`: facets with the part that a key speaks about taken from others;
* `Facets.Reads`: what a constraint writes, into whatever facets;
* `knownConstraints`: constraints by what they speak about, those that are not known left out.

The main statement is `resolveField_perm`.
-/

namespace Conform

/-! ## One constraint -/

namespace Facets

/-- Facets with the part that a key speaks about taken from others. -/
def withPart (facets : Facets) (key : ConstraintKey) (source : Facets) : Facets :=
  match key with
  | .coerce => { facets with coerce := source.coerce }
  | .required => { facets with required := source.required }
  | .min => { facets with min := source.min }
  | .max => { facets with max := source.max }
  | .minLength => { facets with minLength := source.minLength }
  | .maxLength => { facets with maxLength := source.maxLength }
  | .pattern => { facets with pattern := source.pattern }
  | .allowed => { facets with allowed := source.allowed }
  | .trim => { facets with trim := source.trim }
  | .lowercase => { facets with lowercase := source.lowercase }
  | .uppercase => { facets with uppercase := source.uppercase }
  | .message => { facets with message := source.message }
  | .default => { facets with default := source.default }

/-- Parts of different keys can be written in either order. -/
theorem withPart_comm (facets : Facets) {key other : ConstraintKey} (h : key ≠ other)
    (source source' : Facets) :
    (facets.withPart key source).withPart other source' =
      (facets.withPart other source').withPart key source := by
  cases key <;> cases other <;> first | exact absurd rfl h | rfl

/-- A constraint writes a part of some facets, into whatever facets it is added to. -/
def Reads (dated : Bool) (key : ConstraintKey) (json : Json) (source : Facets) : Prop :=
  ∀ facets : Facets, facets.apply dated key json = .ok (facets.withPart key source)

variable {dated : Bool} {key : ConstraintKey} {json : Json}

/-- A constraint whose value is read first and then written writes the same wherever it succeeds. -/
theorem reads_or_fails {α : Type} (read : Except ConstraintError α) (source : α → Facets)
    (h : ∀ facets : Facets, facets.apply dated key json =
      read >>= fun a => .ok (facets.withPart key (source a))) :
    (∃ source, Reads dated key json source) ∨
      ∃ reason, ∀ facets : Facets, facets.apply dated key json = .error reason := by
  cases read with
  | ok a => exact Or.inl ⟨source a, h⟩
  | error reason => exact Or.inr ⟨reason, h⟩

/-- Whether a constraint is read, and what it writes, does not depend on the facets so far. -/
theorem apply_cases (dated : Bool) (key : ConstraintKey) (json : Json) :
    (∃ source, Reads dated key json source) ∨
      ∃ reason, ∀ facets : Facets, facets.apply dated key json = .error reason := by
  cases key with
  | coerce => exact reads_or_fails _ (fun b => { coerce := b }) fun _ => rfl
  | required =>
      exact reads_or_fails _ (fun c => { coerce := false, required := some c }) fun _ => rfl
  | min => exact reads_or_fails _ (fun c => { coerce := false, min := some c }) fun _ => rfl
  | max => exact reads_or_fails _ (fun c => { coerce := false, max := some c }) fun _ => rfl
  | minLength =>
      exact reads_or_fails _ (fun n => { coerce := false, minLength := some n }) fun _ => rfl
  | maxLength =>
      exact reads_or_fails _ (fun n => { coerce := false, maxLength := some n }) fun _ => rfl
  | pattern =>
      refine reads_or_fails (reading (readPatternText json) >>= compileClause)
        (fun c => { coerce := false, pattern := some c }) fun facets => ?_
      rw [bind_assoc]
      rfl
  | allowed => exact reads_or_fails _ (fun c => { coerce := false, allowed := some c }) fun _ => rfl
  | trim => exact reads_or_fails _ (fun b => { coerce := false, trim := b }) fun _ => rfl
  | lowercase => exact reads_or_fails _ (fun b => { coerce := false, lowercase := b }) fun _ => rfl
  | uppercase => exact reads_or_fails _ (fun b => { coerce := false, uppercase := b }) fun _ => rfl
  | message => exact reads_or_fails _ (fun s => { coerce := false, message := some s }) fun _ => rfl
  | default => exact Or.inl ⟨{ coerce := false, default := some (.fixed json) }, fun _ => rfl⟩

/-- Facets with one more constraint, which is passed over where it cannot be read. -/
def stating (dated : Bool) (facets : Facets) (constraint : ConstraintKey × Json) : Facets :=
  match facets.apply dated constraint.1 constraint.2 with
  | .ok next => next
  | .error _ => facets

theorem Reads.stating {source : Facets} (h : Reads dated key json source) (facets : Facets) :
    facets.stating dated (key, json) = facets.withPart key source := by
  simp only [Facets.stating, h facets]

/-- A constraint either always writes one part of its key, or never anything. -/
theorem stating_cases (dated : Bool) (constraint : ConstraintKey × Json) :
    (∃ source, ∀ facets : Facets,
        facets.stating dated constraint = facets.withPart constraint.1 source) ∨
      ∀ facets : Facets, facets.stating dated constraint = facets := by
  rcases apply_cases dated constraint.1 constraint.2 with ⟨source, hreads⟩ | ⟨reason, hfails⟩
  · exact Or.inl ⟨source, hreads.stating⟩
  · refine Or.inr fun facets => ?_
    simp only [Facets.stating, hfails facets]

/-- A part stays as it was written where a constraint speaks about another one. -/
theorem stating_withPart {constraint : ConstraintKey × Json} (h : constraint.1 ≠ key)
    (facets source : Facets) :
    (facets.withPart key source).stating dated constraint =
      (facets.stating dated constraint).withPart key source := by
  rcases stating_cases dated constraint with ⟨source', hwrites⟩ | hkeeps
  · rw [hwrites, hwrites, withPart_comm facets h]
  · rw [hkeeps, hkeeps]

/-- Constraints of different keys can change places. -/
theorem stating_comm {first second : ConstraintKey × Json} (h : first.1 ≠ second.1)
    (facets : Facets) :
    (facets.stating dated first).stating dated second =
      (facets.stating dated second).stating dated first := by
  rcases stating_cases dated first with ⟨source, hwrites⟩ | hkeeps
  · rw [hwrites, hwrites, stating_withPart h.symm]
  · rw [hkeeps, hkeeps]

theorem foldl_stating_withPart {constraints : List (ConstraintKey × Json)}
    (h : ∀ constraint ∈ constraints, constraint.1 ≠ key) (facets source : Facets) :
    constraints.foldl (stating dated) (facets.withPart key source) =
      (constraints.foldl (stating dated) facets).withPart key source := by
  induction constraints generalizing facets with
  | nil => rfl
  | cons constraint rest ih =>
      rw [List.foldl_cons, stating_withPart (h constraint List.mem_cons_self)]
      exact ih (fun other hother => h other (List.mem_cons_of_mem _ hother)) _

/-- Constraints of keys of their own can be stated in any order. -/
theorem foldl_stating_perm {constraints others : List (ConstraintKey × Json)}
    (hperm : constraints.Perm others) (hkeys : (constraints.map (·.1)).Nodup) (facets : Facets) :
    constraints.foldl (stating dated) facets = others.foldl (stating dated) facets := by
  apply hperm.foldl_eq'
  intro first hfirst second hsecond between
  by_cases hsame : first.1 = second.1
  · rw [List.inj_on_of_nodup_map hkeys hfirst hsecond hsame]
  · exact stating_comm hsame between

end Facets

/-! ## All constraints of a field -/

/-- Constraints by what they speak about; those that are not known are left out. -/
def knownConstraints (constraints : List (String × Json)) : List (ConstraintKey × Json) :=
  constraints.filterMap fun (key, json) => (ConstraintKey.ofText? key).map (·, json)

/-- Resolution succeeds when every constraint that is known can be read, and then states one after
the other. -/
theorem resolveConstraints_eq_ok_iff {dated : Bool} {path : String}
    {constraints : List (String × Json)} {facets facets' : Facets} :
    (resolveConstraints dated path constraints facets).result = .ok facets' ↔
      (∀ constraint ∈ knownConstraints constraints,
        ∃ source, Facets.Reads dated constraint.1 constraint.2 source) ∧
        facets' = (knownConstraints constraints).foldl (Facets.stating dated) facets := by
  induction constraints generalizing facets with
  | nil =>
      constructor
      · rintro ⟨⟩
        exact ⟨fun constraint hmem => absurd hmem List.not_mem_nil, rfl⟩
      · rintro ⟨-, rfl⟩
        rfl
  | cons constraint rest ih =>
      rcases constraint with ⟨text, json⟩
      unfold resolveConstraints
      cases hkey : ConstraintKey.ofText? text with
      | none =>
          have hknown : knownConstraints ((text, json) :: rest) = knownConstraints rest := by
            simp [knownConstraints, hkey]
          simp only [Noted.bind_eq_ok, ih, hknown]
          constructor
          · rintro ⟨_, -, hrest⟩
            exact hrest
          · exact fun hrest => ⟨(), rfl, hrest⟩
      | some key =>
          have hknown : knownConstraints ((text, json) :: rest) =
              (key, json) :: knownConstraints rest := by
            simp [knownConstraints, hkey]
          simp only [Noted.bind_eq_ok, ih, hknown, Noted.ofExcept, mapError_eq_ok,
            List.forall_mem_cons, List.foldl_cons]
          constructor
          · rintro ⟨between, hbetween, hrest, heq⟩
            rcases Facets.apply_cases dated key json with ⟨source, hreads⟩ | ⟨reason, hfails⟩
            · obtain rfl : facets.withPart key source = between :=
                Except.ok.inj ((hreads facets).symm.trans hbetween)
              rw [hreads.stating]
              exact ⟨⟨⟨source, hreads⟩, hrest⟩, heq⟩
            · cases (hfails facets).symm.trans hbetween
          · rintro ⟨⟨⟨source, hreads⟩, hrest⟩, heq⟩
            rw [hreads.stating] at heq
            exact ⟨_, hreads facets, hrest, heq⟩

theorem ne_of_mem_knownConstraints {constraints : List (String × Json)} {key : ConstraintKey}
    (h : ∀ constraint ∈ constraints, ConstraintKey.ofText? constraint.1 ≠ some key) :
    ∀ constraint ∈ knownConstraints constraints, constraint.1 ≠ key := by
  rintro constraint hmem rfl
  rcases List.mem_filterMap.1 hmem with ⟨⟨text, json⟩, hstated, hknown⟩
  rcases Option.map_eq_some_iff.1 hknown with ⟨key, hkey, rfl⟩
  exact h (text, json) hstated hkey

/-- The last constraint of a key stands. -/
theorem resolveConstraints_last {dated : Bool} {path text : String} {key : ConstraintKey}
    {json : Json} {before rest : List (String × Json)} {facets facets' : Facets}
    (hkey : ConstraintKey.ofText? text = some key)
    (hlast : ∀ constraint ∈ rest, ConstraintKey.ofText? constraint.1 ≠ some key)
    (h : (resolveConstraints dated path (before ++ (text, json) :: rest) facets).result =
      .ok facets') :
    ∃ source others, Facets.Reads dated key json source ∧
      facets' = Facets.withPart others key source := by
  have hknown : knownConstraints (before ++ (text, json) :: rest) =
      knownConstraints before ++ (key, json) :: knownConstraints rest := by
    simp [knownConstraints, hkey]
  obtain ⟨hreadable, rfl⟩ := resolveConstraints_eq_ok_iff.1 h
  rw [hknown] at hreadable ⊢
  obtain ⟨source, hreads⟩ :=
    hreadable (key, json) (List.mem_append_right _ List.mem_cons_self)
  refine ⟨source, (knownConstraints rest).foldl (Facets.stating dated)
    ((knownConstraints before).foldl (Facets.stating dated) facets), hreads, ?_⟩
  rw [List.foldl_append, List.foldl_cons, hreads.stating]
  exact Facets.foldl_stating_withPart (ne_of_mem_knownConstraints hlast) _ source

/-- Constraints that are known under keys of their own can be resolved in any order. -/
theorem resolveConstraints_perm {dated : Bool} {path : String}
    {constraints others : List (String × Json)}
    (hkeys : ((knownConstraints constraints).map (·.1)).Nodup)
    (hperm : constraints.Perm others) {facets facets' : Facets} :
    (resolveConstraints dated path constraints facets).result = .ok facets' ↔
      (resolveConstraints dated path others facets).result = .ok facets' := by
  have hknown : (knownConstraints constraints).Perm (knownConstraints others) :=
    hperm.filterMap _
  rw [resolveConstraints_eq_ok_iff, resolveConstraints_eq_ok_iff,
    Facets.foldl_stating_perm hknown hkeys]
  simp only [hknown.mem_iff]

variable {options : Options} {registry : Registry} {path : String} {definition : FieldDefinition}

/-- Constraints may be stated in any order, where no two of them speak about the same: in both
orders the definition is refused, or in both it states one field. -/
theorem resolveField_perm {constraints : List (String × Json)}
    (hkeys : ((knownConstraints definition.constraints).map (·.1)).Nodup)
    (hperm : definition.constraints.Perm constraints) (field : Field) :
    (resolveField options registry path definition).result = .ok field ↔
      (resolveField options registry path { definition with constraints }).result = .ok field := by
  simp only [resolveField, Noted.bind_eq_ok, resolveConstraints_perm hkeys hperm]
  rfl

/-- A day with allowed values, which is told to coerce only behind them. -/
def dueDefinition : FieldDefinition :=
  { type := .kind .date
    constraints := [("enum", .array [.string "2020-02-29", .string "2020-03-01 12:00:00"]),
      ("color", .string "red"), ("required", .array [.bool true, .string "when?"]),
      ("coerce", .bool true)] }

/-- The field that `dueDefinition` states. -/
def dueField : Field :=
  ⟨.builtin .date,
    { coerce := true
      required := some ⟨true, some "when?"⟩
      allowed := some
        ⟨[.string "2020-02-29T00:00:00.000Z", .string "2020-03-01T12:00:00.000Z"], none⟩ }⟩

theorem resolveField_perm_dueDefinition :
    ((knownConstraints dueDefinition.constraints).map (·.1)).Nodup ∧
      dueDefinition.constraints.Perm dueDefinition.constraints.reverse ∧
      (resolveField .validateOnly .builtin "due" dueDefinition).result = .ok dueField ∧
      (resolveField .validateOnly .builtin "due"
        { dueDefinition with constraints := dueDefinition.constraints.reverse }).result =
        .ok dueField := by
  have hkeys : ((knownConstraints dueDefinition.constraints).map (·.1)).Nodup := by decide
  have hperm : dueDefinition.constraints.Perm dueDefinition.constraints.reverse :=
    (List.reverse_perm _).symm
  have hstated : (resolveField .validateOnly .builtin "due" dueDefinition).result =
      .ok dueField := rfl
  exact ⟨hkeys, hperm, hstated, (resolveField_perm hkeys hperm dueField).1 hstated⟩

end Conform
