import Conform.Validation
import Mathlib.Init

/-!
# Runs

A run starts from what has been drawn so far and ends with a value or with a violation, and with
what has been drawn by then.  This file defines:

* `Finds`: what holds of every violation at which a check stops;
* `Run.outcome`: the end of a run, with the equations of the ways in which runs are put together;
* `Run.Ensures`: what holds of every value that a run ends with;
* `Run.Agree` and `Run.Related`: two runs that draw alike and stop alike, with related values.

A check that draws nothing is a plain `Except`; what its success says of its parts stands first.
-/

namespace Conform

/-! ## Checks -/

/-- A sequence succeeds exactly when each of its parts does. -/
theorem bind_eq_ok {ε α β : Type} {x : Except ε α} {f : α → Except ε β} {b : β} :
    x >>= f = .ok b ↔ ∃ a, x = .ok a ∧ f a = .ok b := by
  constructor
  · intro h
    cases x with
    | ok a => exact ⟨a, rfl, h⟩
    | error e => exact absurd h (by simp [bind, Except.bind])
  · rintro ⟨a, rfl, h⟩
    exact h

theorem mapError_eq_ok {ε δ α : Type} {x : Except ε α} {f : ε → δ} {a : α} :
    x.mapError f = .ok a ↔ x = .ok a := by
  constructor
  · intro h
    cases x with
    | ok b =>
        cases h
        rfl
    | error e => cases h
  · rintro rfl
    rfl

/-- Every violation at which a check stops has a property. -/
def Finds {α : Type} (p : Violation → Prop) (x : Except Violation α) : Prop :=
  ∀ violation, x = .error violation → p violation

namespace Finds

variable {α β : Type} {p : Violation → Prop}

theorem ok (a : α) : Finds p (.ok a) := by
  intro violation h
  cases h

theorem error {violation : Violation} (h : p violation) :
    Finds p (.error violation : Except Violation α) := by
  rintro _ ⟨⟩
  exact h

theorem bind {x : Except Violation α} {f : α → Except Violation β} (hx : Finds p x)
    (hf : ∀ a, Finds p (f a)) : Finds p (x >>= f) := by
  cases x with
  | ok a => exact hf a
  | error violation =>
      intro other h
      cases h
      exact hx violation rfl

end Finds

namespace Run

variable {α β γ δ : Type}

/-! ## Outcomes -/

/-- How a run ends, with what has been drawn by then. -/
def outcome (x : Run α) (draws : Draws) : Except Violation α × Draws :=
  StateT.run (ExceptT.run x) draws

theorem ext {x y : Run α} (h : ∀ draws, x.outcome draws = y.outcome draws) : x = y :=
  funext h

/-- A check that draws nothing. -/
@[simp] theorem outcome_lift (x : Except Violation α) (draws : Draws) :
    (liftM x : Run α).outcome draws = (x, draws) := rfl

/-- After a value a run goes on from what has been drawn; after a violation it stops. -/
theorem outcome_bind (x : Run α) (f : α → Run β) (draws : Draws) :
    (x >>= f).outcome draws =
      match x.outcome draws with
      | (.ok a, drawn) => (f a).outcome drawn
      | (.error violation, drawn) => (.error violation, drawn) := by
  change (ExceptT.bindCont f (x.outcome draws).1).run (x.outcome draws).2 = _
  rcases x.outcome draws with ⟨result, drawn⟩
  cases result with
  | ok a => rfl
  | error violation => rfl

/-- What is made of the value of a run draws nothing more. -/
theorem drawn_bind_pure (x : Run α) (f : α → β) (draws : Draws) :
    ((x >>= fun a => pure (f a)).outcome draws).2 = (x.outcome draws).2 := by
  rw [outcome_bind]
  rcases x.outcome draws with ⟨result, drawn⟩
  cases result <;> rfl

/-- A sequence that ends with a value got one from each of its parts. -/
theorem outcome_bind_eq_ok {x : Run α} {f : α → Run β} {draws drawn : Draws} {b : β}
    (h : (x >>= f).outcome draws = (.ok b, drawn)) :
    ∃ a between, x.outcome draws = (.ok a, between) ∧ (f a).outcome between = (.ok b, drawn) := by
  rw [outcome_bind] at h
  rcases hx : x.outcome draws with ⟨result, between⟩
  rw [hx] at h
  cases result with
  | ok a => exact ⟨a, between, rfl, h⟩
  | error violation => simp at h

/-- Every value that a run ends with has a property. -/
def Ensures (p : α → Prop) (x : Run α) : Prop :=
  ∀ draws a drawn, x.outcome draws = (.ok a, drawn) → p a

namespace Ensures

theorem pure {p : α → Prop} {a : α} (h : p a) : Ensures p (Pure.pure a) := by
  intro draws b drawn hb
  cases hb
  exact h

theorem throw {p : α → Prop} (violation : Violation) : Ensures p (throw violation) := by
  intro draws a drawn ha
  cases ha

theorem mono {p q : α → Prop} {x : Run α} (h : Ensures p x) (hpq : ∀ a, p a → q a) :
    Ensures q x :=
  fun draws a drawn ha => hpq a (h draws a drawn ha)

theorem and {p q : α → Prop} {x : Run α} (hp : Ensures p x) (hq : Ensures q x) :
    Ensures (fun a => p a ∧ q a) x :=
  fun draws a drawn ha => ⟨hp draws a drawn ha, hq draws a drawn ha⟩

/-- What the last part of a sequence ensures after what the first one ensures. -/
theorem bind_of {p : α → Prop} {q : β → Prop} {x : Run α} {f : α → Run β} (hx : Ensures p x)
    (h : ∀ a, p a → Ensures q (f a)) : Ensures q (x >>= f) := by
  intro draws b drawn hb
  rcases outcome_bind_eq_ok hb with ⟨a, between, hfirst, ha⟩
  exact h a (hx draws a between hfirst) between b drawn ha

/-- What the last part of a sequence ensures, the sequence ensures. -/
theorem bind {p : β → Prop} {x : Run α} {f : α → Run β} (h : ∀ a, Ensures p (f a)) :
    Ensures p (x >>= f) :=
  bind_of (p := fun _ => True) (fun _ _ _ _ => trivial) (fun a _ => h a)

end Ensures

/-! ## Related runs -/

/-- Two outcomes agree: both runs drew the same, and they stopped at the same violation or ended
with related values. -/
inductive Agree (R : α → β → Prop) :
    Except Violation α × Draws → Except Violation β × Draws → Prop
  | ok {a : α} {b : β} (h : R a b) (drawn : Draws) : Agree R (.ok a, drawn) (.ok b, drawn)
  | error (violation : Violation) (drawn : Draws) :
      Agree R (.error violation, drawn) (.error violation, drawn)

/-- Two runs agree wherever they start. -/
def Related (R : α → β → Prop) (x : Run α) (y : Run β) : Prop :=
  ∀ draws, Agree R (x.outcome draws) (y.outcome draws)

namespace Related

theorem pure {R : α → β → Prop} {a : α} {b : β} (h : R a b) :
    Related R (Pure.pure a) (Pure.pure b) :=
  fun draws => .ok h draws

theorem throw {R : α → β → Prop} (violation : Violation) :
    Related R (throw violation) (throw violation) :=
  fun draws => .error violation draws

theorem refl (x : Run α) : Related Eq x x := by
  intro draws
  rcases x.outcome draws with ⟨result, drawn⟩
  cases result with
  | ok a => exact .ok rfl drawn
  | error violation => exact .error violation drawn

/-- From one start, both runs end with related values or both stop at one violation. -/
theorem outcomes {R : α → β → Prop} {x : Run α} {y : Run β} (h : Related R x y) (draws : Draws) :
    (∃ a b drawn, R a b ∧ x.outcome draws = (.ok a, drawn) ∧ y.outcome draws = (.ok b, drawn)) ∨
      ∃ violation drawn, x.outcome draws = (.error violation, drawn) ∧
        y.outcome draws = (.error violation, drawn) := by
  have hagree := h draws
  -- Only variables can be split on, so the two outcomes are named first.
  generalize x.outcome draws = first at hagree
  generalize y.outcome draws = second at hagree
  cases hagree with
  | ok hab drawn => exact Or.inl ⟨_, _, drawn, hab, rfl, rfl⟩
  | error violation drawn => exact Or.inr ⟨violation, drawn, rfl, rfl⟩

/-- Sequences agree when their parts do. -/
theorem bind {R : α → β → Prop} {S : γ → δ → Prop} {x : Run α} {y : Run β} {f : α → Run γ}
    {g : β → Run δ} (h : Related R x y) (hnext : ∀ a b, R a b → Related S (f a) (g b)) :
    Related S (x >>= f) (y >>= g) := by
  intro draws
  rw [outcome_bind, outcome_bind]
  rcases h.outcomes draws with ⟨a, b, drawn, hab, hx, hy⟩ | ⟨violation, drawn, hx, hy⟩
  · rw [hx, hy]
    exact hnext a b hab drawn
  · rw [hx, hy]
    exact .error violation drawn

theorem and_ensures {R : α → β → Prop} {p : β → Prop} {x : Run α} {y : Run β}
    (h : Related R x y) (hends : Ensures p y) : Related (fun a b => R a b ∧ p b) x y := by
  intro draws
  rcases h.outcomes draws with ⟨a, b, drawn, hab, hx, hy⟩ | ⟨violation, drawn, hx, hy⟩
  · rw [hx, hy]
    exact .ok ⟨hab, hends draws b drawn hy⟩ drawn
  · rw [hx, hy]
    exact .error violation drawn

theorem mono {R S : α → β → Prop} {x : Run α} {y : Run β} (h : Related R x y)
    (hRS : ∀ a b, R a b → S a b) : Related S x y := by
  intro draws
  rcases h.outcomes draws with ⟨a, b, drawn, hab, hx, hy⟩ | ⟨violation, drawn, hx, hy⟩
  · rw [hx, hy]
    exact .ok (hRS a b hab) drawn
  · rw [hx, hy]
    exact .error violation drawn

/-- Two runs that agree with a third agree with each other. -/
theorem corner {R : α → γ → Prop} {S : β → γ → Prop} {x : Run α} {y : Run β} {z : Run γ}
    (hx : Related R x z) (hy : Related S y z) :
    Related (fun a b => ∃ c, R a c ∧ S b c) x y := by
  intro draws
  rcases hx.outcomes draws with ⟨a, c, drawn, hac, hxa, hzc⟩ | ⟨violation, drawn, hxv, hzv⟩
  · rcases hy.outcomes draws with ⟨b, c', drawn', hbc, hyb, hzc'⟩ | ⟨violation, drawn', -, hzv⟩
    · rw [hzc] at hzc'
      cases hzc'
      rw [hxa, hyb]
      exact .ok ⟨c, hac, hbc⟩ drawn
    · rw [hzc] at hzv
      cases hzv
  · rcases hy.outcomes draws with ⟨b, c, drawn', -, -, hzc⟩ | ⟨violation', drawn', hyv, hzv'⟩
    · rw [hzv] at hzc
      cases hzc
    · rw [hzv] at hzv'
      cases hzv'
      rw [hxv, hyv]
      exact .error violation drawn

/-- Runs that agree up to a reading of the first one's value are the same after that reading. -/
theorem map_eq {f : α → β} {x : Run α} {y : Run β} (h : Related (fun a b => f a = b) x y) :
    (do return f (← x)) = y := by
  apply ext
  intro draws
  rw [outcome_bind]
  rcases h.outcomes draws with ⟨a, b, drawn, rfl, hx, hy⟩ | ⟨violation, drawn, hx, hy⟩
  · rw [hx, hy]
    rfl
  · rw [hx, hy]

end Related

end Run

end Conform
