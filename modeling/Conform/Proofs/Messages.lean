import Conform.Proofs.Wording

/-!
# What violations say and show

A violation says the text that belongs to the clause that it is of, or else the text of the field,
or else a text that names the path and what is asked for.  It shows the value that was given, where
that is refused as it is.  This file defines:

* `Facets.ownText`: the text of the clause that a fault is of;
* `Kind.refusal` and `Kind.generatedText`: what is said in the absence of any text;
* `Fault.IsOfGiven`: the faults of a value as it was given;
* `Violation.TellsOf` and `Tells`: violations, and checks, that say and show what they should;
* `DifferInTexts`: runs that differ in nothing but what their violations say;

and proves that the checks of a field of a built-in kind tell what they should.  The main statement
is `Field.check_wording`: texts decide what a field says of a value and nothing else.
-/

namespace Conform

/-! ## Texts -/

/-- The text of the clause that a fault is of; a value that is not of the kind meets no clause. -/
def Facets.ownText (facets : Facets) : Fault → Option String
  | .required => facets.required.bind (·.message)
  | .min => facets.min.bind (·.message)
  | .max => facets.max.bind (·.message)
  | .minLength => facets.minLength.bind (·.message)
  | .maxLength => facets.maxLength.bind (·.message)
  | .enum => facets.allowed.bind (·.message)
  | .pattern => facets.pattern.bind (·.message)
  | .refused => facets.check.bind (·.message)
  | .mistyped _ | .registered _ => none

namespace Kind

/-- What is said of a value that is not a number of the kind, in the absence of any text. -/
def numberRefusal (kind : Kind) (coerce : Bool) (path : String) (value : Json) : String :=
  match numeral? coerce value with
  | some (.infinite _, _) => "Field \"" ++ path ++ "\" must be a valid finite " ++ kind.finiteNoun
  | some (.finite x, _) =>
    -- Only an integer is refused for the number that it is.
    if x.isIntegral then
      "Field \"" ++ path ++ "\" must be an integer between -2147483648 and 2147483647"
    else kind.mistypedMessage path
  | some (.undefined, _) | none => kind.mistypedMessage path

/-- What is said of a value that is not of the kind, in the absence of any text. -/
def refusal (kind : Kind) (coerce : Bool) (path : String) (value : Json) : String :=
  match kind with
  | boolean =>
    match value with
    | .string s =>
      if coerce then "Field \"" ++ path ++ "\" value \"" ++ s ++ "\" is not allowed for a boolean"
      else boolean.mistypedMessage path
    | _ => boolean.mistypedMessage path
  | number | int32 | decimal128 | double => kind.numberRefusal coerce path value
  | string | date | object | array => kind.mistypedMessage path

theorem refusal_of_isNumeric {kind : Kind} (hkind : kind.isNumeric = true) (coerce : Bool)
    (path : String) (value : Json) :
    kind.refusal coerce path value = kind.numberRefusal coerce path value := by
  cases kind with
  | number | int32 | decimal128 | double => rfl
  | string | boolean | date | object | array => cases hkind

/-- The written value of a clause, where there is one. -/
def clauseText {α : Type} (text : α → String) (clause : Option (Clause α)) : String :=
  clause.elim "" fun clause => text clause.value

/-- What is said of a fault in the absence of any text. -/
def generatedText (kind : Kind) (facets : Facets) (path : String) (value : Json) : Fault → String
  | .required => "Field \"" ++ path ++ "\" is required"
  | .mistyped _ => kind.refusal facets.coerce path value
  | .min =>
    "Field \"" ++ path ++ (if kind = date then "\" must be after " else "\" must be >= ") ++
      clauseText Bound.text facets.min
  | .max =>
    "Field \"" ++ path ++ (if kind = date then "\" must be before " else "\" must be <= ") ++
      clauseText Bound.text facets.max
  | .minLength =>
    "Field \"" ++ path ++ "\" length must be >= " ++ clauseText toString facets.minLength
  | .maxLength =>
    "Field \"" ++ path ++ "\" length must be <= " ++ clauseText toString facets.maxLength
  | .enum => "Field \"" ++ path ++ "\" must be one of: " ++ clauseText listText facets.allowed
  | .pattern => "Field \"" ++ path ++ "\" does not match required pattern"
  | .refused => "Field \"" ++ path ++ "\" failed custom validation"
  | .registered _ => ""

end Kind

/-! ## Violations -/

/-- A value is refused as it was given: it is empty, or not of the kind.  Integers are apart, for
their range is checked on the number that was read. -/
def Fault.IsOfGiven : Fault → Prop
  | required => True
  | mistyped kind => kind ≠ .int32
  | min | max | minLength | maxLength | enum | pattern | refused | registered _ => False

theorem Fault.isOfGiven_iff {fault : Fault} :
    fault.IsOfGiven ↔ fault = .required ∨ ∃ kind, kind ≠ .int32 ∧ fault = .mistyped kind := by
  cases fault <;> simp [IsOfGiven]

/-- A violation says the text of the clause, else that of the field, else the generated one, and
shows the value where it was refused as it was given. -/
structure Violation.TellsOf (kind : Kind) (facets : Facets) (path : String) (value : Json)
    (violation : Violation) : Prop where
  message : violation.message =
    ((facets.ownText violation.fault).or facets.message).getD
      (kind.generatedText facets path value violation.fault)
  value : violation.fault.IsOfGiven → violation.value = value

/-- Where a check of a value stops, its violation tells of the value what it should. -/
abbrev Tells {α : Type} (kind : Kind) (facets : Facets) (path : String) (value : Json)
    (x : Except Violation α) : Prop :=
  Finds (Violation.TellsOf kind facets path value) x

section

variable {kind : Kind} {facets : Facets} {path : String} {value : Json}

/-! ## Checks -/

/-- Clauses are demanded of what a value was brought to, for faults of their own. -/
theorem Facets.demand_tells {α : Type} {clause : Option (Clause α)} {fault : Fault}
    {holds : α → Bool} {fallback : α → String} {shown : Json} (hfault : ¬ fault.IsOfGiven)
    (hown : facets.ownText fault = clause.bind (·.message))
    (htext : ∀ c, clause = some c →
      fallback c.value = kind.generatedText facets path value fault) :
    Tells kind facets path value (facets.demand fault clause holds fallback path shown) := by
  unfold demand
  cases clause with
  | none => exact .ok ()
  | some c =>
      have hmessage : facets.messageFor c.message (fallback c.value) =
          ((facets.ownText fault).or facets.message).getD
            (kind.generatedText facets path value fault) := by
        rw [hown, htext c rfl]
        rfl
      cases hholds : holds c.value with
      | true => simpa [hholds] using Finds.ok ()
      | false => simpa [hholds] using Finds.error ⟨hmessage, fun h => absurd h hfault⟩

theorem Facets.requiredViolation_tells {α : Type} :
    Tells kind facets path value
      (.error (facets.requiredViolation path value) : Except Violation α) :=
  .error ⟨rfl, fun _ => rfl⟩

theorem Facets.checkValue_tells (output : Json) :
    Tells kind facets path value (facets.checkValue output path) := by
  unfold checkValue
  refine Finds.bind (demand_tells id rfl ?_) fun _ => ?_
  · intro c hc
    simp [Kind.generatedText, Kind.clauseText, hc]
  refine Finds.bind (demand_tells id rfl ?_) fun _ => demand_tells id rfl ?_
  · exact fun _ _ => rfl
  · exact fun _ _ => rfl

namespace Kind

/-- A value that is not of the kind is refused in the text that is generated for it. -/
theorem refused_tells {text : String} {shown : Json}
    (h : kind.refusal facets.coerce path value = text) (hshown : kind ≠ int32 → shown = value) :
    Tells kind facets path value
      (.error ⟨.mistyped kind, facets.messageFor none text, path, shown⟩ :
        Except Violation Json) := by
  refine .error ⟨?_, hshown⟩
  rw [generatedText, h]
  rfl

theorem mistyped_tells (h : kind.refusal facets.coerce path value = kind.mistypedMessage path) :
    Tells kind facets path value
      (.error (kind.mistyped facets path value) : Except Violation Json) :=
  refused_tells h fun _ => rfl

theorem readString_tells : Tells string facets path value (readString facets value path) := by
  unfold readString
  split
  · exact mistyped_tells rfl
  · refine Finds.bind (Facets.demand_tells id rfl ?_) fun _ => ?_
    · intro c hc
      simp [generatedText, clauseText, hc]
    refine Finds.bind (Facets.demand_tells id rfl ?_) fun _ => .ok _
    intro c hc
    simp [generatedText, clauseText, hc]

theorem readBoolean_tells : Tells boolean facets path value (readBoolean facets value path) := by
  unfold readBoolean
  cases value with
  | bool b => exact .ok _
  | null | array _ | object _ => exact mistyped_tells rfl
  | number n =>
      cases facets.coerce with
      | false => exact mistyped_tells rfl
      | true =>
          cases hword : numberBoolean? n.toBinary64 with
          | some b => simpa [hword] using Finds.ok (Json.bool b)
          | none => simpa [hword] using mistyped_tells rfl
  | string s =>
      cases hcoerce : facets.coerce with
      | false => exact mistyped_tells (by simp [refusal, hcoerce])
      | true =>
          cases hword : wordBoolean? s with
          | some b => simpa [hword] using Finds.ok (Json.bool b)
          | none =>
              -- A word that names no boolean is shown in the text.
              have htext : boolean.refusal facets.coerce path (.string s) =
                  "Field \"" ++ path ++ "\" value \"" ++ s ++
                    "\" is not allowed for a boolean" := by
                simp [refusal, hcoerce]
              simpa [hword] using refused_tells htext fun _ => rfl

theorem checkNumber_tells (hkind : kind.isNumeric = true) {x : Binary64} {asGiven : Bool}
    (hx : numeral? facets.coerce value = some (.finite x, asGiven)) (output : Json) :
    Tells kind facets path value (kind.checkNumber facets x output value path) := by
  have hdate : kind ≠ date := by
    rintro rfl
    cases hkind
  have hbounds : Tells kind facets path value (do
      facets.demand .min facets.min (atLeast x)
        (fun bound => "Field \"" ++ path ++ "\" must be >= " ++ bound.text) path output
      facets.demand .max facets.max (atMost x)
        (fun bound => "Field \"" ++ path ++ "\" must be <= " ++ bound.text) path output
      return output) := by
    refine Finds.bind (Facets.demand_tells id rfl ?_) fun _ => ?_
    · intro c hc
      simp [generatedText, clauseText, hc, hdate]
    refine Finds.bind (Facets.demand_tells id rfl ?_) fun _ => .ok _
    intro c hc
    simp [generatedText, clauseText, hc, hdate]
  unfold checkNumber
  by_cases hint : kind = int32
  · subst hint
    by_cases hwhole : x.isIntegral = true
    · by_cases hfits : fitsInt32 x = true
      · simpa [hwhole, hfits] using hbounds
      · simp only [hwhole, hfits]
        -- The number that was read is shown, which need not be the value.
        exact refused_tells (by simp [refusal, numberRefusal, hx, hwhole]) fun h => absurd rfl h
    · simp only [hwhole]
      exact mistyped_tells (by simp [refusal, numberRefusal, hx, hwhole])
  · simpa [hint] using hbounds

theorem readNumber_tells (hkind : kind.isNumeric = true) :
    Tells kind facets path value (kind.readNumber facets value path) := by
  have hrefusal := refusal_of_isNumeric hkind facets.coerce path value
  unfold readNumber
  split
  · next x asGiven hx => exact checkNumber_tells hkind hx _
  · next negative asGiven hx =>
      exact refused_tells (by simp [hrefusal, numberRefusal, hx]) fun _ => rfl
  · next asGiven hx => exact mistyped_tells (by simp [hrefusal, numberRefusal, hx])
  · next hx => exact mistyped_tells (by simp [hrefusal, numberRefusal, hx])

theorem readDate_tells : Tells date facets path value (readDate facets value path) := by
  unfold readDate
  split
  · exact mistyped_tells rfl
  · refine Finds.bind (Facets.demand_tells id rfl ?_) fun _ => ?_
    · intro c hc
      simp [generatedText, clauseText, hc]
    refine Finds.bind (Facets.demand_tells id rfl ?_) fun _ => .ok _
    intro c hc
    simp [generatedText, clauseText, hc]

theorem readValue_tells (kind : Kind) :
    Tells kind facets path value (kind.readValue facets value path) := by
  cases kind with
  | string => exact readString_tells
  | boolean => exact readBoolean_tells
  | number | int32 | decimal128 | double => exact readNumber_tells rfl
  | date => exact readDate_tells
  | object =>
      cases value with
      | object members => exact .ok _
      | null | bool _ | number _ | string _ | array _ => exact mistyped_tells rfl
  | array =>
      cases value with
      | array items => exact .ok _
      | null | bool _ | number _ | string _ | object _ => exact mistyped_tells rfl

theorem rule_tells (kind : Kind) (info : TypeInfo) :
    Tells kind facets path value (kind.rule info facets value path) := by
  unfold rule
  split
  · split
    · exact Facets.requiredViolation_tells
    · exact .ok _
  · exact readValue_tells kind

end Kind

end

/-! ## Fields -/

theorem Field.checkPresent_tells {field : Field} {kind : Kind}
    (hkind : field.type = .builtin kind) (path : String) (value : Json) :
    Tells kind field.facets path value (field.checkPresent path value) := by
  unfold checkPresent
  split
  · exact Facets.requiredViolation_tells
  · have hrule : Tells kind field.facets path value (field.applyRule value path) := by
      rw [applyRule_of_builtin hkind]
      exact Kind.rule_tells kind _
    refine Finds.bind hrule fun output => ?_
    split
    · exact Finds.bind (Facets.checkValue_tells output) fun _ => .ok _
    · exact .ok _

/-- Two runs differ in texts at most: they draw the same and end alike, and the violations of the
first say what they should. -/
structure DifferInTexts {α : Type} (kind : Kind) (facets : Facets) (path : String) (value : Json)
    (x y : Run α) : Prop where
  drawn : ∀ draws, (x.outcome draws).2 = (y.outcome draws).2
  ends : ∀ draws, SameEnd path path (x.outcome draws).1 (y.outcome draws).1
  tells : ∀ draws, Tells kind facets path value (x.outcome draws).1

namespace DifferInTexts

variable {α β : Type} {kind : Kind} {facets : Facets} {path : String} {value : Json}

theorem pure (a : α) : DifferInTexts kind facets path value (Pure.pure a) (Pure.pure a) :=
  ⟨fun _ => rfl, fun _ => SameEnd.ok a, fun _ => .ok a⟩

theorem throw {v w : Violation} (h : v.SameFault path path w)
    (htells : Tells kind facets path value (.error v : Except Violation α)) :
    DifferInTexts kind facets path value (throw v : Run α) (throw w) :=
  ⟨fun _ => rfl, fun _ => EndsAlike.error h, fun _ => htells⟩

/-- After two checks that differ in texts at most, the runs go on from one value. -/
theorem bind {x y : Except Violation α} {f g : α → Run β} (hends : SameEnd path path x y)
    (htells : Tells kind facets path value x)
    (hnext : ∀ a, DifferInTexts kind facets path value (f a) (g a)) :
    DifferInTexts kind facets path value ((liftM x : Run α) >>= f) ((liftM y : Run α) >>= g) := by
  cases hends with
  | ok hvalue =>
      subst hvalue
      exact hnext _
  | error h => exact throw h (.error (htells _ rfl))

end DifferInTexts

/-- Without a value, only a requirement is said to be unmet, and fields that ask the same write the
same default. -/
theorem Field.checkAbsent_differInTexts {field field' : Field} {kind : Kind}
    (h : field.facets.AsksLike field'.facets) (tolerant : Bool) (path : String) :
    DifferInTexts kind field.facets path .null (field.checkAbsent tolerant path)
      (field'.checkAbsent tolerant path) := by
  have hmissing : DifferInTexts kind field.facets path .null
      (if field.facets.isRequired && !tolerant then
        throw (field.facets.requiredViolation path .null) else return [] : Run Entries)
      (if field'.facets.isRequired && !tolerant then
        throw (field'.facets.requiredViolation path .null) else return []) := by
    rw [h.isRequired]
    split
    · exact DifferInTexts.throw ⟨rfl, rfl, rfl, rfl⟩ Facets.requiredViolation_tells
    · exact DifferInTexts.pure []
  simp only [checkAbsent, h.default, h.coerce]
  rcases field'.facets.default with _ | default
  · exact hmissing
  · cases field'.facets.coerce with
    | false => exact hmissing
    | true =>
        -- What is drawn is written with no check that could stop.
        exact ⟨fun _ => rfl, fun _ => EndsAlike.ok rfl, fun _ => .ok _⟩

theorem Field.check_differInTexts {field field' : Field} {kind : Kind}
    (hkind : field.type = .builtin kind) (hkind' : field'.type = .builtin kind)
    (h : field.facets.AsksLike field'.facets) (tolerant : Bool) (path : String)
    (value : Option Json) :
    DifferInTexts kind field.facets path (value.getD .null) (field.check tolerant path value)
      (field'.check tolerant path value) := by
  cases value with
  | none => exact checkAbsent_differInTexts h tolerant path
  | some value =>
      have hends := checkPresent_sameEnd hkind hkind' h path path value
      have htells := checkPresent_tells hkind path value
      exact DifferInTexts.bind hends htells fun output => DifferInTexts.pure [(path, output)]

/-- Texts decide what a field says of a value and nothing else.  Fields of one built-in kind that
ask the same of values write the same, or find the same fault of the same value in the same place;
and a violation says the text of the clause that it is of, else that of the field, else the
generated one. -/
theorem Field.check_wording {field field' : Field} {kind : Kind}
    (hkind : field.type = .builtin kind) (hkind' : field'.type = .builtin kind)
    (h : field.facets.AsksLike field'.facets) (tolerant : Bool) (path : String)
    (value : Option Json) (draws : Draws) :
    ((field.check tolerant path value).outcome draws).2 =
        ((field'.check tolerant path value).outcome draws).2 ∧
      EndsAlike (Violation.SameFault path path) Eq
        ((field.check tolerant path value).outcome draws).1
        ((field'.check tolerant path value).outcome draws).1 ∧
      ∀ violation, ((field.check tolerant path value).outcome draws).1 = .error violation →
        violation.message =
          ((field.facets.ownText violation.fault).or field.facets.message).getD
            (kind.generatedText field.facets path (value.getD .null) violation.fault) := by
  have hdiffer := check_differInTexts hkind hkind' h tolerant path value
  exact ⟨hdiffer.drawn draws, hdiffer.ends draws,
    fun violation hstop => (hdiffer.tells draws violation hstop).message⟩

/-- A handle, with a text of its own and one of a clause. -/
def handleField : Field :=
  ⟨.builtin .string,
    { coerce := true
      minLength := some ⟨3, none⟩
      maxLength := some ⟨8, some "too long"⟩
      message := some "no handle" }⟩

/-- A handle without any texts. -/
def wordlessField : Field :=
  ⟨.builtin .string,
    { coerce := true
      minLength := some ⟨3, none⟩
      maxLength := some ⟨8, none⟩ }⟩

/-- The end of the check of a handle. -/
def handleEnd (field : Field) (text : String) : Except Violation Entries :=
  ((field.check false "handle" (some (.string text))).outcome fun _ => 0).1

theorem Field.check_wording_handle :
    handleField.facets.AsksLike wordlessField.facets ∧
      handleEnd handleField "anonymous" =
        .error ⟨.maxLength, "too long", "handle", .string "anonymous"⟩ ∧
      handleEnd handleField "an" = .error ⟨.minLength, "no handle", "handle", .string "an"⟩ ∧
      ∃ violation, handleEnd wordlessField "an" = .error violation ∧
        violation.fault = .minLength ∧ violation.value = .string "an" ∧
        violation.message = "Field \"handle\" length must be >= 3" := by
  have hlike : handleField.facets.AsksLike wordlessField.facets :=
    ⟨rfl, rfl, rfl, rfl, rfl, rfl, rfl, rfl, rfl, rfl, rfl, rfl, rfl⟩
  have hshort : handleEnd handleField "an" =
      .error ⟨.minLength, "no handle", "handle", .string "an"⟩ := rfl
  refine ⟨hlike, rfl, hshort, ?_⟩
  -- The fault is found through the field with texts, the text through the field itself.
  obtain ⟨-, hends, -⟩ := @check_wording handleField wordlessField .string rfl rfl hlike false
    "handle" (some (.string "an")) fun _ => 0
  obtain ⟨-, -, htells⟩ := @check_wording wordlessField wordlessField .string rfl rfl
    (Facets.AsksLike.refl _) false "handle" (some (.string "an")) fun _ => 0
  change EndsAlike _ _ (handleEnd handleField "an") (handleEnd wordlessField "an") at hends
  rw [hshort] at hends
  generalize hplain : handleEnd wordlessField "an" = plain at hends
  cases hends with
  | error hsame =>
      refine ⟨_, rfl, hsame.fault, hsame.value, ?_⟩
      rw [htells _ hplain, hsame.fault]
      rfl

end Conform
