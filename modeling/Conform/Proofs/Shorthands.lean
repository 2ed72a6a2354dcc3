import Conform.Proofs.Runs
import Conform.Resolution

/-!
# Shorthand forms of constraints

A constraint can be written in several forms, some of which overlap: a list may be a value or a
value with its message, and an object may be a value or hold one.  This file defines:

* `ClauseForm`: the forms of a clause, whose value and message may be any documents;
* `ListForm`: the forms of a clause of allowed values;
* `ConstraintKey.isClause`: the constraints on flags, bounds and lengths.

The main statement is `resolveField_shorthand`: what resolution makes of a definition depends on the
value and the message of a constraint, not on its form.
-/

namespace Conform

/-! ## Forms -/

/-- The forms of a clause.  In an object the value stands under one of the given names, and the
message under `msg`; a message that is left out is as good as `null`. -/
inductive ClauseForm (names : List String) (value : Json) : Json → Json → Prop
  | alone : ClauseForm names value .null (.array [value])
  | pair (message : Json) : ClauseForm names value message (.array [value, message])
  | members {name : String} {members : List (String × Json)} (hname : name ∈ names)
      (hvalue : Json.lookup name members = some value)
      (hothers : ∀ other ∈ names, other ≠ name → Json.lookup other members = none) :
      ClauseForm names value ((Json.lookup "msg" members).getD .null) (.object members)
  | bare (hlist : ∀ items, value ≠ .array items) (hnames : ∀ name ∈ names, value.get? name = none) :
      ClauseForm names value .null value

/-- The forms of a clause of allowed values.  A list of a list and a string is not a list of two
values. -/
inductive ListForm (values : List Json) : Option String → Json → Prop
  | pair (message : String) :
      ListForm values (some message) (.array [.array values, .string message])
  | members {members : List (String × Json)} (message : Option String)
      (hvalues : Json.lookup "values" members = some (.array values))
      (hmessage : (Json.lookup "msg" members).getD .null = message.elim .null .string) :
      ListForm values message (.object members)
  | bare (h : ∀ inner text, values ≠ [.array inner, .string text]) :
      ListForm values none (.array values)

/-- An object of a value and its message alone. -/
theorem ClauseForm.object {names : List String} {name : String} (hname : name ∈ names)
    (hmsg : "msg" ∉ names) (value message : Json) :
    ClauseForm names value message (.object [(name, value), ("msg", message)]) := by
  have hne : name ≠ "msg" := fun heq => hmsg (heq ▸ hname)
  have hmessage : (Json.lookup "msg" [(name, value), ("msg", message)]).getD .null = message := by
    simp [Json.lookup, hne]
  have hothers : ∀ other ∈ names, other ≠ name →
      Json.lookup other [(name, value), ("msg", message)] = none := by
    intro other hother hdiffers
    have hnotMsg : "msg" ≠ other := fun heq => hmsg (heq ▸ hother)
    simp [Json.lookup, hdiffers.symm, hnotMsg]
  have hvalue : Json.lookup name [(name, value), ("msg", message)] = some value := if_pos rfl
  have hform := ClauseForm.members hname hvalue hothers
  rwa [hmessage] at hform

/-- Whether a constraint is a clause of a flag, a bound or a length. -/
def ConstraintKey.isClause : ConstraintKey → Bool
  | required | min | max | minLength | maxLength => true
  | coerce | pattern | allowed | trim | lowercase | uppercase | message | default => false

/-! ## Reading -/

variable {value message json other : Json}

/-- What is read of a clause depends on its value and its message alone. -/
theorem readClause_of_form (h : ClauseForm ["flag"] value message json) :
    readClause json = do return ⟨value, ← readMessage message⟩ := by
  cases h with
  | alone => rfl
  | pair => rfl
  | members hname hvalue hothers =>
      obtain rfl := List.mem_singleton.1 hname
      simp only [readClause, hvalue, memberMessage]
  | bare hlist hnames =>
      cases value with
      | array items => exact absurd rfl (hlist items)
      | object members =>
          have hflag : Json.lookup "flag" members = none :=
            hnames "flag" (List.mem_singleton_self _)
          simp only [readClause, hflag, readMessage]
          rfl
      | null | bool _ | number _ | string _ => rfl

/-- A form of the text of a pattern holds the value under `value`, or is a form of any clause. -/
theorem ClauseForm.pattern_cases (h : ClauseForm ["value", "flag"] value message json) :
    (json.get? "value" = some value ∧ memberMessage (json.members?.getD []) = readMessage message) ∨
      json.get? "value" = none ∧ ClauseForm ["flag"] value message json := by
  cases h with
  | alone => exact Or.inr ⟨rfl, .alone⟩
  | pair => exact Or.inr ⟨rfl, .pair _⟩
  | @members name members hname hvalue hothers =>
      by_cases hcase : name = "value"
      · subst hcase
        exact Or.inl ⟨hvalue, rfl⟩
      · have hflag : name ∈ ["flag"] := List.mem_of_ne_of_mem hcase hname
        refine Or.inr ⟨hothers "value" List.mem_cons_self (Ne.symm hcase),
          .members hflag hvalue fun other hother => hothers other (List.mem_cons_of_mem _ hother)⟩
  | bare hlist hnames =>
      exact Or.inr ⟨hnames "value" List.mem_cons_self,
        .bare hlist fun name hname => hnames name (List.mem_cons_of_mem _ hname)⟩

/-- What is read of the text of a pattern depends on its value and its message alone. -/
theorem readPatternText_of_form (h : ClauseForm ["value", "flag"] value message json) :
    readPatternText json = (do
      let message ← readMessage message
      match value.string? with
      | some text => return ⟨text, message⟩
      | none => throw .notPattern) := by
  rcases h.pattern_cases with ⟨hvalue, hmessage⟩ | ⟨hvalue, hform⟩
  · cases htext : value.string? with
    | none | some text =>
        simp only [readPatternText, hvalue, hmessage, pure_bind, htext]
  · cases htext : value.string? with
    | none | some text =>
        simp only [readPatternText, hvalue, readClause_of_form hform, bind_assoc, pure_bind, htext]

theorem readAllowed_of_form {values : List Json} {message : Option String}
    (h : ListForm values message json) : readAllowed json = .ok ⟨values, message⟩ := by
  cases h with
  | pair => rfl
  | members message hvalues hmessage =>
      simp only [readAllowed, hvalues, memberMessage, hmessage]
      cases message with
      | none => rfl
      | some text => rfl
  | bare h =>
      unfold readAllowed
      split
      · next inner text heq =>
          cases heq
          exact absurd rfl (h inner text)
      · next heq =>
          cases heq
          rfl
      · next heq => cases heq
      · next hnone _ => exact absurd rfl (hnone values)

/-- Clauses are read into facets by what is read of them as clauses. -/
theorem Facets.apply_of_readClause {key : ConstraintKey} (hkey : key.isClause = true)
    (h : readClause json = readClause other) (dated : Bool) (facets : Facets) :
    facets.apply dated key json = facets.apply dated key other := by
  cases key with
  | required => simp only [apply, readRequired, h]
  | min | max => simp only [apply, readBound, h]
  | minLength | maxLength => simp only [apply, readLength, h]
  | coerce | pattern | allowed | trim | lowercase | uppercase | message | default =>
      exact Bool.noConfusion hkey

/-! ## Resolution -/

variable {options : Options} {registry : Registry} {path text : String}

/-- Resolution does not tell documents apart that are read alike where they stand. -/
theorem resolveConstraints_insert {dated : Bool} {key : ConstraintKey}
    (hkey : ConstraintKey.ofText? text = some key)
    (h : ∀ facets : Facets, facets.apply dated key json = facets.apply dated key other)
    (constraints : List (String × Json)) (facets : Facets) :
    resolveConstraints dated path (Json.insert text json constraints) facets =
      resolveConstraints dated path (Json.insert text other constraints) facets := by
  induction constraints generalizing facets with
  | nil => simp only [Json.insert, resolveConstraints, hkey, h]
  | cons constraint rest ih =>
      rcases constraint with ⟨name, stated⟩
      by_cases hname : name = text
      · subst hname
        simp only [Json.insert, if_true, resolveConstraints, hkey, h]
      · simp only [Json.insert, if_neg hname]
        unfold resolveConstraints
        simp only [ih]

theorem resolveField_constrain {key : ConstraintKey}
    (hkey : ConstraintKey.ofText? text = some key)
    (h : ∀ dated (facets : Facets), facets.apply dated key json = facets.apply dated key other)
    (definition : FieldDefinition) :
    resolveField options registry path (definition.constrain text json) =
      resolveField options registry path (definition.constrain text other) := by
  unfold resolveField FieldDefinition.constrain
  simp only [resolveConstraints_insert hkey (h _)]
  rfl

/-- A constraint can be written in any of its forms: a definition with the one states the field, or
is refused for the reason, of the definition with the other, and leaves the same notices.  This
holds of clauses of flags, bounds and lengths in every spelling of their keys, of patterns, which
have one form more, and of allowed values. -/
theorem resolveField_shorthand (options : Options) (registry : Registry) (path : String)
    (definition : FieldDefinition) :
    (∀ text key, ConstraintKey.ofText? text = some key → key.isClause = true →
      ∀ value message json other, ClauseForm ["flag"] value message json →
        ClauseForm ["flag"] value message other →
        resolveField options registry path (definition.constrain text json) =
          resolveField options registry path (definition.constrain text other)) ∧
      (∀ value message json other, ClauseForm ["value", "flag"] value message json →
        ClauseForm ["value", "flag"] value message other →
        resolveField options registry path (definition.constrain "match" json) =
          resolveField options registry path (definition.constrain "match" other)) ∧
      ∀ values message json other, ListForm values message json → ListForm values message other →
        resolveField options registry path (definition.constrain "enum" json) =
          resolveField options registry path (definition.constrain "enum" other) := by
  refine ⟨?_, ?_, ?_⟩
  · intro text key hkey hclause value message json other hjson hother
    have hread : readClause json = readClause other :=
      (readClause_of_form hjson).trans (readClause_of_form hother).symm
    exact resolveField_constrain hkey (Facets.apply_of_readClause hclause hread) definition
  · intro value message json other hjson hother
    have hread : readPatternText json = readPatternText other :=
      (readPatternText_of_form hjson).trans (readPatternText_of_form hother).symm
    have hkey : ConstraintKey.ofText? "match" = some .pattern := rfl
    refine resolveField_constrain hkey (fun dated facets => ?_) definition
    simp only [Facets.apply, hread]
  · intro values message json other hjson hother
    have hread : readAllowed json = readAllowed other :=
      (readAllowed_of_form hjson).trans (readAllowed_of_form hother).symm
    have hkey : ConstraintKey.ofText? "enum" = some .allowed := rfl
    refine resolveField_constrain hkey (fun dated facets => ?_) definition
    simp only [Facets.apply, hread]

/-- A text without blanks around it. -/
def codeDefinition : FieldDefinition :=
  { type := .kind .string, constraints := [("trim", .bool true)] }

/-- A demand with its message in an object, a pattern whose message is no text, and a list of values
of which the second is a text. -/
theorem resolveField_shorthand_codeDefinition :
    ConstraintKey.ofText? "required" = some .required ∧
      (resolveField {} .builtin "code" (codeDefinition.constrain "required" (.object
        [("flag", .bool true), ("msg", .string "which?")]))).result =
        .ok ⟨.builtin .string,
          { coerce := true, trim := true, required := some ⟨true, some "which?"⟩ }⟩ ∧
      (resolveField {} .builtin "code" (codeDefinition.constrain "match" (.object
        [("value", .string "^a"), ("msg", .bool true)]))).result =
        .error (.invalidConstraint "code" "match" .messageNotString) ∧
      (resolveField {} .builtin "code" (codeDefinition.constrain "enum" (.object
        [("values", .array [.string "a", .string "b"])]))).result =
        .ok ⟨.builtin .string,
          { coerce := true, trim := true, allowed := some ⟨[.string "a", .string "b"], none⟩ }⟩ := by
  have hkey : ConstraintKey.ofText? "required" = some .required := rfl
  obtain ⟨hclauses, hpatterns, hlists⟩ :=
    resolveField_shorthand {} .builtin "code" codeDefinition
  refine ⟨hkey, ?_, ?_, ?_⟩
  · rw [hclauses _ _ hkey rfl _ _ _ _ (.object (by decide) (by decide) _ _) (.pair _)]
    rfl
  · rw [hpatterns _ _ _ _ (.object (by decide) (by decide) _ _) (.pair _)]
    rfl
  · have hobject : ListForm [.string "a", .string "b"] none
        (.object [("values", .array [.string "a", .string "b"])]) := .members none rfl rfl
    rw [hlists _ _ _ _ hobject (.bare (by simp))]
    rfl

end Conform
