import Conform.Proofs.Conforming
import Conform.Proofs.Registrations

/-!
# What definitions mean

A definition names types, and a registry says what the names mean.  Registries only grow, so what
resolution makes of a definition can change in one way: a type that was not known is known later.
This file defines:

* `Noted.KeptBy`: a computation that ends as another does, which may miss a type;

and proves it of each part of resolution, one case per constructor of definitions.
-/

namespace Conform

/-! ## Computations that only miss types -/

namespace Noted

variable {ε α β : Type} {x : Noted ε α}

theorem bind_of_error {e : ε} (h : x.result = .error e) (f : α → Noted ε β) :
    (x >>= f) = ⟨x.notices, .error e⟩ := by
  change Noted.bind x f = _
  rw [Noted.bind, h]

theorem bind_of_ok {a : α} (h : x.result = .ok a) (f : α → Noted ε β) :
    (x >>= f) = ⟨x.notices ++ (f a).notices, (f a).result⟩ := by
  change Noted.bind x f = _
  rw [Noted.bind, h]

end Noted

/-- The second computation ends as the first one does, unless that one misses a type. -/
inductive Noted.KeptBy {α : Type} (x y : Noted SchemaError α) : Prop
  | same (h : y = x)
  | unknown (key : String) (h : x.result = .error (.unknownType key))

namespace Noted.KeptBy

variable {α β : Type} {x y : Noted SchemaError α}

theorem refl (x : Noted SchemaError α) : x.KeptBy x := .same rfl

/-- Sequences are kept when their first parts are and their second parts are from each value. -/
theorem bind {f g : α → Noted SchemaError β} (h : x.KeptBy y) (hnext : ∀ a, (f a).KeptBy (g a)) :
    (x >>= f).KeptBy (y >>= g) := by
  cases h with
  | unknown key hx =>
      refine .unknown key ?_
      rw [bind_result, hx]
      rfl
  | same hyx =>
      subst hyx
      cases hy : y.result with
      | error reason =>
          -- Neither of the second parts is run.
          exact .same ((bind_of_error hy g).trans (bind_of_error hy f).symm)
      | ok a =>
          cases hnext a with
          | same hga =>
              refine .same ?_
              rw [bind_of_ok hy f, bind_of_ok hy g, hga]
          | unknown key hfa =>
              refine .unknown key ?_
              rw [bind_of_ok hy f, hfa]

/-- A value that was made is made again, with the same notices. -/
theorem of_ok {a : α} (h : x.KeptBy y) (hx : x.result = .ok a) : y = x := by
  cases h with
  | same hyx => exact hyx
  | unknown _ hmiss =>
      rw [hx] at hmiss
      cases hmiss

/-- A refusal for any reason but a type that is not known is met again, with the same notices. -/
theorem of_error {reason : SchemaError} (h : x.KeptBy y) (hx : x.result = .error reason)
    (hknown : ∀ key, reason ≠ .unknownType key) : y = x := by
  cases h with
  | same hyx => exact hyx
  | unknown key hmiss =>
      rw [hx] at hmiss
      exact absurd (Except.error.inj hmiss) (hknown key)

end Noted.KeptBy

/-! ## Resolution in a registry that has grown -/

section

variable {registry next : Registry}

theorem Registry.Extends.resolve (h : registry.Extends next) (ref : TypeRef) :
    (liftM (registry.resolve ref) : Noted SchemaError FieldType).KeptBy
      (liftM (next.resolve ref)) := by
  cases hfound : registry.find? ref.key with
  | none =>
      refine .unknown ref.key ?_
      rw [Noted.lift_result, Registry.resolve, hfound]
  | some type =>
      refine .same ?_
      have hbefore : registry.resolve ref = .ok type := Registry.resolve_eq_ok.2 hfound
      have hafter : next.resolve ref = .ok type := Registry.resolve_eq_ok.2 (h _ _ hfound)
      rw [hbefore, hafter]

/-- Only the first step of a field asks the registry. -/
theorem resolveField_keptBy (h : registry.Extends next) (options : Options) (path : String)
    (definition : FieldDefinition) :
    (resolveField options registry path definition).KeptBy
      (resolveField options next path definition) := by
  unfold resolveField
  exact (h.resolve definition.type).bind fun _ => .refl _

theorem resolveMembers_keptBy {options : Options} {path : String}
    {definitions : List (String × Definition)}
    (hparts : ∀ member ∈ definitions, ∀ path,
      (resolveNode options registry path member.2).KeptBy (resolveNode options next path member.2))
    (taken : List String) :
    (resolveMembers options registry path taken definitions).KeptBy
      (resolveMembers options next path taken definitions) := by
  -- The induction is on the definitions, for whatever names are taken ahead of them.
  induction definitions generalizing taken with
  | nil =>
      unfold resolveMembers
      exact .refl _
  | cons first rest ih =>
      rcases first with ⟨name, definition⟩
      have hfirst := hparts (name, definition) List.mem_cons_self (Path.child path name)
      have hrest := ih (fun member hmember => hparts member (List.mem_cons_of_mem _ hmember))
      unfold resolveMembers
      refine (Noted.KeptBy.refl _).bind fun _ => hfirst.bind fun node => ?_
      exact (hrest (name :: taken)).bind fun _ => .refl _

/-- What resolution makes of a part of a definition is kept, whatever its path is. -/
theorem resolveNode_keptBy (h : registry.Extends next) (options : Options) (path : String)
    (definition : Definition) :
    (resolveNode options registry path definition).KeptBy
      (resolveNode options next path definition) := by
  induction definition using Definition.induct generalizing path with
  | type ref =>
      unfold resolveNode
      exact (h.resolve ref).bind fun _ => .refl _
  | field definition =>
      unfold resolveNode
      exact (resolveField_keptBy h options path definition).bind fun _ => .refl _
  | object definitions ih =>
      unfold resolveNode
      exact (resolveMembers_keptBy ih []).bind fun _ => .refl _
  | array items ih =>
      -- Unless there is just one item, the array is refused and no registry is asked.
      rcases items with _ | ⟨item, _ | ⟨second, rest⟩⟩
      · unfold resolveNode
        exact .refl _
      · unfold resolveNode
        exact (ih item List.mem_cons_self (path ++ "[]")).bind fun _ => .refl _
      · unfold resolveNode
        exact .refl _

theorem resolve_keptBy (h : registry.Extends next) (options : Options) (definition : Definition) :
    (resolve options registry definition).KeptBy (resolve options next definition) := by
  cases definition with
  | object definitions =>
      unfold resolve
      have hparts := fun (member : String × Definition) (_ : member ∈ definitions) path =>
        resolveNode_keptBy h options path member.2
      exact resolveMembers_keptBy hparts []
  | type _ | field _ | array _ => exact .refl _

end

/-- Requests for new types do not change what a definition means.  What it states is stated by it
in the registry that they lead to, and what is wrong with it stays wrong, unless a type was not
known; either way the same notices are left. -/
theorem resolve_of_leadsTo {registry next : Registry} {accepted : Nat}
    (h : registry.LeadsTo accepted next) (options : Options) (definition : Definition) :
    (∀ members, (resolve options registry definition).result = .ok members →
        (resolve options next definition).result = .ok members ∧
          (resolve options next definition).notices =
            (resolve options registry definition).notices) ∧
      (∀ reason, (resolve options registry definition).result = .error reason →
        (∀ key, reason ≠ .unknownType key) →
          (resolve options next definition).result = .error reason ∧
            (resolve options next definition).notices =
              (resolve options registry definition).notices) := by
  have hkept := resolve_keptBy h.extends options definition
  constructor
  · intro members hresult
    have hsame := hkept.of_ok hresult
    rw [hsame]
    exact ⟨hresult, rfl⟩
  · intro reason hresult hknown
    have hsame := hkept.of_error hresult hknown
    rw [hsame]
    exact ⟨hresult, rfl⟩

/-- A member of a type that is not built in, behind one that is stated twice. -/
def pricedDefinition : Definition :=
  .object [("name", .type (.kind .string)), ("name", .type (.kind .string)),
    ("price", .type (.name "Cash"))]

theorem resolve_of_leadsTo_moneyRegistry :
    Registry.builtin.LeadsTo 1 moneyRegistry ∧
      (resolve {} moneyRegistry nestedDefinition).result = .ok nestedMembers ∧
      (resolve {} moneyRegistry pricedDefinition).result =
        .error (.invalidDefinition "name" .repeatedName) := by
  have hnested : (resolve {} .builtin nestedDefinition).result = .ok nestedMembers := rfl
  have hpriced : (resolve {} .builtin pricedDefinition).result =
      .error (.invalidDefinition "name" .repeatedName) := rfl
  have hstated := resolve_of_leadsTo leadsTo_moneyRegistry {} nestedDefinition
  have hrefused := resolve_of_leadsTo leadsTo_moneyRegistry {} pricedDefinition
  refine ⟨leadsTo_moneyRegistry, (hstated.1 _ hnested).1, (hrefused.2 _ hpriced ?_).1⟩
  intro key hkey
  cases hkey

/-- A type that was not known may be known later. -/
example :
    (resolve {} .builtin (.object [("price", .type (.name "Cash"))])).result =
        .error (.unknownType "cash") ∧
      ((resolve {} moneyRegistry (.object [("price", .type (.name "Cash"))])).result.map
        (·.map (·.1))) = .ok ["price"] := ⟨rfl, rfl⟩

end Conform
