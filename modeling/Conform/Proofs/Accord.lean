import Conform.Proofs.Conforming

/-!
# Runs that draw nothing

Where no default is drawn from a generator, a run is a plain check, and it may be set beside the run
of another schema on another document without regard to what either has drawn.  This file defines:

* `EndsAlike`: two checks that both end with values in a relation, or both at violations in another;
* `Run.Accord`: two runs that draw nothing and end alike;
* `Run.IsStill`: a run that draws nothing, so that its place among others does not matter;
* `Node.IsStatic`: a node that draws from no generator.
-/

namespace Conform

/-! ## Checks -/

/-- Two checks end alike: both with related values, or both with related errors. -/
inductive EndsAlike {ε δ α β : Type} (V : ε → δ → Prop) (R : α → β → Prop) :
    Except ε α → Except δ β → Prop
  | ok {a : α} {b : β} (h : R a b) : EndsAlike V R (.ok a) (.ok b)
  | error {e : ε} {d : δ} (h : V e d) : EndsAlike V R (.error e) (.error d)

namespace EndsAlike

variable {ε δ ζ α β γ α' β' : Type} {V V' : ε → δ → Prop} {R R' : α → β → Prop}

theorem refl {V : ε → ε → Prop} {R : α → α → Prop} {x : Except ε α} (hV : ∀ e, V e e)
    (hR : ∀ a, x = .ok a → R a a) : EndsAlike V R x x := by
  cases x with
  | ok a => exact ok (hR a rfl)
  | error e => exact error (hV e)

theorem mono {x : Except ε α} {y : Except δ β} (h : EndsAlike V R x y)
    (hV : ∀ e d, V e d → V' e d) (hR : ∀ a b, R a b → R' a b) : EndsAlike V' R' x y := by
  cases h with
  | ok hab => exact ok (hR _ _ hab)
  | error hed => exact error (hV _ _ hed)

/-- Where the errors do not matter, the ends of three checks are composed like their values. -/
theorem comp {S : β → γ → Prop} {T : α → γ → Prop} {x : Except ε α} {y : Except δ β}
    {z : Except ζ γ} (hxy : EndsAlike (fun _ _ => True) R x y)
    (hyz : EndsAlike (fun _ _ => True) S y z) (hT : ∀ a b c, R a b → S b c → T a c) :
    EndsAlike (fun _ _ => True) T x z := by
  cases hxy with
  | ok hab =>
      cases hyz with
      | ok hbc => exact ok (hT _ _ _ hab hbc)
  | error _ =>
      cases hyz with
      | error _ => exact error trivial

/-- Sequences end alike when their parts do. -/
theorem bind {S : α' → β' → Prop} {x : Except ε α} {y : Except δ β} {f : α → Except ε α'}
    {g : β → Except δ β'} (h : EndsAlike V R x y)
    (hnext : ∀ a b, R a b → EndsAlike V S (f a) (g b)) : EndsAlike V S (x >>= f) (y >>= g) := by
  cases h with
  | ok hab => exact hnext _ _ hab
  | error hed => exact error hed

/-- A check ends with a value where the one beside it does. -/
theorem exists_of_ok_right {x : Except ε α} {b : β}
    (h : EndsAlike V R x (.ok b : Except δ β)) : ∃ a, x = .ok a ∧ R a b := by
  cases h with
  | ok hab => exact ⟨_, rfl, hab⟩

end EndsAlike

namespace Run

variable {α β γ δ : Type} {V : Violation → Violation → Prop} {R : α → β → Prop}

/-! ## Runs -/

/-- Two runs draw nothing and end alike. -/
def Accord (V : Violation → Violation → Prop) (R : α → β → Prop) (x : Run α) (y : Run β) : Prop :=
  ∃ first second, x = liftM (first : Except Violation α) ∧
    y = liftM (second : Except Violation β) ∧ EndsAlike V R first second

namespace Accord

theorem lift {x : Except Violation α} {y : Except Violation β} (h : EndsAlike V R x y) :
    Accord V R (liftM x) (liftM y) :=
  ⟨x, y, rfl, rfl, h⟩

theorem pure {a : α} {b : β} (h : R a b) : Accord V R (Pure.pure a) (Pure.pure b) :=
  ⟨.ok a, .ok b, rfl, rfl, .ok h⟩

theorem throw {v w : Violation} (h : V v w) :
    Accord V R (throw v : Run α) (throw w : Run β) :=
  ⟨.error v, .error w, rfl, rfl, .error h⟩

/-- Sequences accord when their parts do. -/
theorem bind {S : γ → δ → Prop} {x : Run α} {y : Run β} {f : α → Run γ} {g : β → Run δ}
    (h : Accord V R x y) (hnext : ∀ a b, R a b → Accord V S (f a) (g b)) :
    Accord V S (x >>= f) (y >>= g) := by
  rcases h with ⟨first, second, rfl, rfl, hends⟩
  cases hends with
  | ok hab => exact hnext _ _ hab
  | error hvw => exact throw hvw

/-- Where the violations do not matter, three runs compose like their values. -/
theorem comp {S : β → γ → Prop} {T : α → γ → Prop} {x : Run α} {y : Run β} {z : Run γ}
    (hxy : Accord (fun _ _ => True) R x y) (hyz : Accord (fun _ _ => True) S y z)
    (hT : ∀ a b c, R a b → S b c → T a c) : Accord (fun _ _ => True) T x z := by
  rcases hxy with ⟨first, second, rfl, rfl, hends⟩
  rcases hyz with ⟨second', third, hsecond, rfl, hends'⟩
  have heq : second = second' :=
    congrArg (fun run : Run β => (run.outcome fun _ => 0).1) hsecond
  subst heq
  exact lift (hends.comp hends' hT)

/-- Both runs end with related values, or both stop at related violations, from any start. -/
theorem ends {x : Run α} {y : Run β} (h : Accord V R x y) :
    (∃ a b, R a b ∧ x = Pure.pure a ∧ y = Pure.pure b) ∨
      ∃ v w, V v w ∧ x = MonadExcept.throw v ∧ y = MonadExcept.throw w := by
  rcases h with ⟨first, second, rfl, rfl, hends⟩
  cases hends with
  | ok hab => exact Or.inl ⟨_, _, hab, rfl, rfl⟩
  | error hvw => exact Or.inr ⟨_, _, hvw, rfl, rfl⟩

end Accord

/-- A run that draws nothing. -/
def IsStill (x : Run α) : Prop := ∃ check, x = liftM (check : Except Violation α)

theorem Accord.isStill_right {x : Run α} {y : Run β} (h : Accord V R x y) : IsStill y := by
  rcases h with ⟨_, second, -, hy, -⟩
  exact ⟨second, hy⟩

theorem IsStill.accord {x : Run α} (h : IsStill x) : Accord (fun _ _ => True) Eq x x := by
  rcases h with ⟨check, rfl⟩
  exact Accord.lift (.refl (fun _ => trivial) fun _ _ => rfl)

theorem IsStill.pure (a : α) : IsStill (Pure.pure a : Run α) := ⟨.ok a, rfl⟩

theorem IsStill.bind {x : Run α} {f : α → Run β} (hx : IsStill x) (hf : ∀ a, IsStill (f a)) :
    IsStill (x >>= f) := by
  rcases hx with ⟨check, rfl⟩
  cases check with
  | ok a => exact hf a
  | error v => exact ⟨.error v, rfl⟩

/-- Of two runs that draw nothing either may go first, when all that counts is whether both end. -/
theorem IsStill.swap {x : Run α} {y : Run β} (hx : IsStill x) (hy : IsStill y)
    {S : γ → δ → Prop} {f : α → β → Run γ} {g : α → β → Run δ}
    (hnext : ∀ a b, Accord (fun _ _ => True) S (f a b) (g a b)) :
    Accord (fun _ _ => True) S (do f (← x) (← y)) (do
      let b ← y
      g (← x) b) := by
  rcases hx with ⟨first, rfl⟩
  rcases hy with ⟨second, rfl⟩
  cases first with
  | ok a =>
      cases second with
      | ok b => exact hnext a b
      | error w => exact Accord.throw trivial
  | error v =>
      cases second with
      | ok b => exact Accord.throw trivial
      | error w => exact Accord.throw trivial

end Run

/-! ## Fields and trees -/

/-- A field to which nothing is given plays out alike at two paths where its default, if it has one,
is always the same. -/
theorem Field.conform_none_accord {V : Violation → Violation → Prop}
    {R : Option Json → Option Json → Prop} {field : Field} {path path' : String}
    (hrequired : V (field.facets.requiredViolation path .null)
      (field.facets.requiredViolation path' .null)) (hnone : R none none)
    (hdefault : ∀ default ∈ field.facets.default,
      ∃ value, default = .fixed value ∧ R (some value) (some value)) (tolerant : Bool) :
    Run.Accord V R (field.conform tolerant path none) (field.conform tolerant path' none) := by
  have hmissing : Run.Accord V R
      (if field.facets.isRequired && !tolerant then
        throw (field.facets.requiredViolation path .null) else return none : Run (Option Json))
      (if field.facets.isRequired && !tolerant then
        throw (field.facets.requiredViolation path' .null) else return none) := by
    split
    · exact Run.Accord.throw hrequired
    · exact Run.Accord.pure hnone
  simp only [conform]
  rcases hfacet : field.facets.default with _ | default
  · exact hmissing
  · cases field.facets.coerce with
    | false => exact hmissing
    | true =>
        obtain ⟨value, rfl, hvalue⟩ := hdefault default hfacet
        exact Run.Accord.pure hvalue

/-- A node that draws from no generator: the default of a field is always the same. -/
def Node.IsStatic : Node → Prop
  | field f => ∀ default ∈ f.facets.default, ∃ value, default = .fixed value
  | object _ | array _ => True

end Conform
