import Conform.Proofs.Accord
import Conform.Proofs.Rules

/-!
# What checks ask and what they say

A check asks something of a value, and where the answer is no it says so in a text that names a
path.  The text and the path play no part in the answer.  This file defines:

* `Facets.AsksLike`: facets that differ in their texts at most;
* `Violation.SameFault`: two violations for one fault of one value, each at a path of its own;

and proves, for every check from a single clause up to a field of a built-in kind, that what differs
in texts and paths alone accepts the same values, writes the same, and finds the same faults.
-/

namespace Conform

/-! ## Facets and violations -/

/-- Two facets ask the same of values, in whatever words. -/
structure Facets.AsksLike (facets other : Facets) : Prop where
  coerce : facets.coerce = other.coerce
  required : facets.required.map (·.value) = other.required.map (·.value)
  default : facets.default = other.default
  min : facets.min.map (·.value) = other.min.map (·.value)
  max : facets.max.map (·.value) = other.max.map (·.value)
  minLength : facets.minLength.map (·.value) = other.minLength.map (·.value)
  maxLength : facets.maxLength.map (·.value) = other.maxLength.map (·.value)
  pattern : facets.pattern.map (·.value) = other.pattern.map (·.value)
  allowed : facets.allowed.map (·.value) = other.allowed.map (·.value)
  check : facets.check.map (·.value) = other.check.map (·.value)
  trim : facets.trim = other.trim
  lowercase : facets.lowercase = other.lowercase
  uppercase : facets.uppercase = other.uppercase

theorem Facets.AsksLike.refl (facets : Facets) : facets.AsksLike facets :=
  ⟨rfl, rfl, rfl, rfl, rfl, rfl, rfl, rfl, rfl, rfl, rfl, rfl, rfl⟩

/-- Two violations are for one fault of one value, each at a path of its own. -/
structure Violation.SameFault (path other : String) (v w : Violation) : Prop where
  fault : w.fault = v.fault
  value : w.value = v.value
  path : v.path = path
  other : w.path = other

/-- Two checks accept alike, with the same result, or find the same fault. -/
abbrev SameEnd {α : Type} (path other : String) (x y : Except Violation α) : Prop :=
  EndsAlike (Violation.SameFault path other) Eq x y

namespace SameEnd

variable {α β : Type} {path other : String}

theorem ok (a : α) : SameEnd path other (.ok a) (.ok a) := EndsAlike.ok rfl

theorem error (fault : Fault) (message message' : String) (value : Json) :
    SameEnd path other (.error ⟨fault, message, path, value⟩ : Except Violation α)
      (.error ⟨fault, message', other, value⟩) :=
  EndsAlike.error ⟨rfl, rfl, rfl, rfl⟩

theorem bind {x y : Except Violation α} {f g : α → Except Violation β}
    (h : SameEnd path other x y) (hnext : ∀ a, SameEnd path other (f a) (g a)) :
    SameEnd path other (x >>= f) (y >>= g) := by
  refine EndsAlike.bind h ?_
  rintro a _ rfl
  exact hnext a

end SameEnd

/-! ## Checks -/

section

variable {facets facets' : Facets} {path path' : String}

theorem Facets.isRequired_eq (facets : Facets) :
    facets.isRequired = (facets.required.map (·.value)).getD false := by
  unfold isRequired
  cases facets.required with
  | none => rfl
  | some clause => rfl

theorem Facets.AsksLike.isRequired (h : facets.AsksLike facets') :
    facets.isRequired = facets'.isRequired := by
  rw [facets.isRequired_eq, facets'.isRequired_eq, h.required]

/-- A clause is met or not by its value alone. -/
theorem Facets.demand_sameEnd {α : Type} {clause clause' : Option (Clause α)}
    (hclause : clause.map (·.value) = clause'.map (·.value)) (fault : Fault) (holds : α → Bool)
    (fallback fallback' : α → String) (value : Json) :
    SameEnd path path' (facets.demand fault clause holds fallback path value)
      (facets'.demand fault clause' holds fallback' path' value) := by
  cases clause with
  | none =>
      cases clause' with
      | none => exact SameEnd.ok ()
      | some c' => cases hclause
  | some c =>
      cases clause' with
      | none => cases hclause
      | some c' =>
          have hvalue : c.value = c'.value := by simpa using hclause
          simp only [demand, hvalue]
          split
          · exact SameEnd.ok ()
          · exact SameEnd.error fault _ _ value

theorem Facets.AsksLike.checkValue (h : facets.AsksLike facets') (value : Json) :
    SameEnd path path' (facets.checkValue value path) (facets'.checkValue value path') := by
  refine SameEnd.bind (demand_sameEnd h.allowed _ _ _ _ _) (fun _ => ?_)
  refine SameEnd.bind (demand_sameEnd h.pattern _ _ _ _ _) (fun _ => ?_)
  exact demand_sameEnd h.check _ _ _ _ _

namespace Kind

theorem reshape_congr (h : facets.AsksLike facets') (text : String) :
    reshape facets text = reshape facets' text := by
  simp only [reshape, h.coerce, h.trim, h.lowercase, h.uppercase]

theorem readString_sameEnd (h : facets.AsksLike facets') (value : Json) :
    SameEnd path path' (readString facets value path) (readString facets' value path') := by
  simp only [readString, h.coerce, reshape_congr h]
  split
  · exact SameEnd.error _ _ _ _
  · refine SameEnd.bind (Facets.demand_sameEnd h.minLength _ _ _ _ _) (fun _ => ?_)
    exact SameEnd.bind (Facets.demand_sameEnd h.maxLength _ _ _ _ _) (fun _ => SameEnd.ok _)

theorem readBoolean_sameEnd (h : facets.AsksLike facets') (value : Json) :
    SameEnd path path' (readBoolean facets value path) (readBoolean facets' value path') := by
  simp only [readBoolean, h.coerce]
  split
  · exact SameEnd.ok _
  · split
    · exact SameEnd.ok _
    · exact SameEnd.error _ _ _ _
  · split
    · exact SameEnd.ok _
    · exact SameEnd.error _ _ _ _
  · exact SameEnd.error _ _ _ _

theorem checkNumber_sameEnd (h : facets.AsksLike facets') (kind : Kind) (x : Binary64)
    (output value : Json) :
    SameEnd path path' (kind.checkNumber facets x output value path)
      (kind.checkNumber facets' x output value path') := by
  have hbounds : SameEnd path path'
      (do
        facets.demand .min facets.min (atLeast x)
          (fun bound => "Field \"" ++ path ++ "\" must be >= " ++ bound.text) path output
        facets.demand .max facets.max (atMost x)
          (fun bound => "Field \"" ++ path ++ "\" must be <= " ++ bound.text) path output
        return output)
      (do
        facets'.demand .min facets'.min (atLeast x)
          (fun bound => "Field \"" ++ path' ++ "\" must be >= " ++ bound.text) path' output
        facets'.demand .max facets'.max (atMost x)
          (fun bound => "Field \"" ++ path' ++ "\" must be <= " ++ bound.text) path' output
        return output) := by
    refine SameEnd.bind (Facets.demand_sameEnd h.min _ _ _ _ _) (fun _ => ?_)
    exact SameEnd.bind (Facets.demand_sameEnd h.max _ _ _ _ _) (fun _ => SameEnd.ok _)
  unfold checkNumber
  by_cases hkind : kind = int32
  · by_cases hwhole : x.isIntegral = true
    · by_cases hfits : fitsInt32 x = true
      · simpa [hkind, hwhole, hfits] using hbounds
      · simp only [hkind, hwhole, hfits]
        exact SameEnd.error _ _ _ _
    · simp only [hkind, hwhole]
      exact SameEnd.error _ _ _ _
  · simpa [hkind] using hbounds

theorem readNumber_sameEnd (h : facets.AsksLike facets') (kind : Kind) (value : Json) :
    SameEnd path path' (kind.readNumber facets value path)
      (kind.readNumber facets' value path') := by
  simp only [readNumber, h.coerce]
  split
  · exact checkNumber_sameEnd h kind _ _ _
  · exact SameEnd.error _ _ _ _
  · exact SameEnd.error _ _ _ _
  · exact SameEnd.error _ _ _ _

theorem readDate_sameEnd (h : facets.AsksLike facets') (value : Json) :
    SameEnd path path' (readDate facets value path) (readDate facets' value path') := by
  simp only [readDate, h.coerce]
  split
  · exact SameEnd.error _ _ _ _
  · refine SameEnd.bind (Facets.demand_sameEnd h.min _ _ _ _ _) (fun _ => ?_)
    exact SameEnd.bind (Facets.demand_sameEnd h.max _ _ _ _ _) (fun _ => SameEnd.ok _)

theorem readValue_sameEnd (h : facets.AsksLike facets') (kind : Kind) (value : Json) :
    SameEnd path path' (kind.readValue facets value path)
      (kind.readValue facets' value path') := by
  cases kind with
  | string => exact readString_sameEnd h value
  | boolean => exact readBoolean_sameEnd h value
  | number => exact readNumber_sameEnd h number value
  | int32 => exact readNumber_sameEnd h int32 value
  | decimal128 => exact readNumber_sameEnd h decimal128 value
  | double => exact readNumber_sameEnd h double value
  | date => exact readDate_sameEnd h value
  | object =>
      cases value with
      | object members => exact SameEnd.ok _
      | null | bool _ | number _ | string _ | array _ => exact SameEnd.error _ _ _ _
  | array =>
      cases value with
      | array items => exact SameEnd.ok _
      | null | bool _ | number _ | string _ | object _ => exact SameEnd.error _ _ _ _

/-- Rules of one kind end alike wherever they are applied, with facets that ask the same. -/
theorem rule_sameEnd (h : facets.AsksLike facets') (kind : Kind) (info info' : TypeInfo)
    (value : Json) :
    SameEnd path path' (kind.rule info facets value path)
      (kind.rule info' facets' value path') := by
  simp only [rule, h.isRequired]
  split
  · split
    · exact SameEnd.error _ _ _ _
    · exact SameEnd.ok _
  · exact readValue_sameEnd h kind value

end Kind

end

/-! ## Fields -/

/-- A given value is accepted or not by what a field of a built-in kind asks of it. -/
theorem Field.checkPresent_sameEnd {field field' : Field} {kind : Kind}
    (hkind : field.type = .builtin kind) (hkind' : field'.type = .builtin kind)
    (h : field.facets.AsksLike field'.facets) (path path' : String) (value : Json) :
    SameEnd path path' (field.checkPresent path value) (field'.checkPresent path' value) := by
  simp only [checkPresent, h.isRequired, isEmptyValue_of_builtin hkind,
    isEmptyValue_of_builtin hkind', applyRule_of_builtin hkind, applyRule_of_builtin hkind']
  split
  · exact SameEnd.error _ _ _ _
  · refine SameEnd.bind (Kind.rule_sameEnd h kind _ _ value) (fun output => ?_)
    split
    · exact SameEnd.bind (h.checkValue output) (fun _ => SameEnd.ok _)
    · exact SameEnd.ok _

end Conform
