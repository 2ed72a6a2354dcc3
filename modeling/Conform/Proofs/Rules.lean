import Conform.Proofs.Numbers
import Conform.Proofs.Resolved

/-!
# What rules accept

Each check says in one way what it accepts and what it writes then.  This file proves, for every
check from a single clause up to a field, that it succeeds exactly under its conditions, and
defines:

* `Kind.HasForm`: the form of the values that a kind writes;
* `Facets.MetBy`: a value that meets everything that a field declares.

What a field of a built-in kind writes meets everything that the field declares, unless it is empty:
`Field.metBy_of_checkPresent`.
-/

namespace Conform

/-! ## Clauses -/

/-- A clause is met exactly when it holds; there is nothing to meet where there is none. -/
theorem Facets.demand_eq_ok {α : Type} {facets : Facets} {fault : Fault}
    {clause : Option (Clause α)} {holds : α → Bool} {fallback : α → String} {path : String}
    {value : Json} {u : Unit} :
    facets.demand fault clause holds fallback path value = .ok u ↔
      ∀ c ∈ clause, holds c.value = true := by
  cases clause with
  | none => simp [demand]
  | some clause => by_cases h : holds clause.value = true <;> simp [demand, h]

theorem Facets.checkValue_eq_ok {facets : Facets} {value : Json} {path : String} {u : Unit} :
    facets.checkValue value path = .ok u ↔
      (∀ c ∈ facets.allowed, isAllowed c.value value = true) ∧
        (∀ c ∈ facets.pattern, c.value.accepts value = true) ∧
        ∀ c ∈ facets.check, c.value value = true := by
  simp only [checkValue, bind_eq_ok, demand_eq_ok]
  constructor
  · rintro ⟨-, hallowed, -, hpattern, hcheck⟩
    exact ⟨hallowed, hpattern, hcheck⟩
  · rintro ⟨hallowed, hpattern, hcheck⟩
    exact ⟨(), hallowed, (), hpattern, hcheck⟩

namespace Kind

/-! ## Families -/

/-- A string is written in its final form, whose length is within the bounds. -/
theorem readString_eq_ok {facets : Facets} {value : Json} {path : String} {output : Json} :
    readString facets value path = .ok output ↔
      ∃ text, stringOf? facets.coerce value = some text ∧
        output = .string (reshape facets text) ∧
        (∀ c ∈ facets.minLength, c.value ≤ (reshape facets text).length) ∧
        ∀ c ∈ facets.maxLength, (reshape facets text).length ≤ c.value := by
  unfold readString
  cases stringOf? facets.coerce value with
  | none => simp
  | some text =>
      simp only [bind_eq_ok, Facets.demand_eq_ok, decide_eq_true_eq, Option.some.injEq]
      constructor
      · rintro ⟨-, hmin, -, hmax, heq⟩
        cases heq
        exact ⟨text, rfl, rfl, hmin, hmax⟩
      · rintro ⟨_, rfl, rfl, hmin, hmax⟩
        exact ⟨(), hmin, (), hmax, rfl⟩

/-- A finite number is written when it is in the range of its kind and within the bounds. -/
theorem checkNumber_eq_ok {kind : Kind} {facets : Facets} {x : Binary64} {written value : Json}
    {path : String} {output : Json} :
    kind.checkNumber facets x written value path = .ok output ↔
      output = written ∧ (kind = int32 → x.isIntegral = true ∧ fitsInt32 x = true) ∧
        (∀ c ∈ facets.min, atLeast x c.value = true) ∧
        ∀ c ∈ facets.max, atMost x c.value = true := by
  -- The bounds come last for every kind, so they are read once, ahead of the range of integers.
  have hbounds : (do
      facets.demand .min facets.min (atLeast x)
        (fun bound => "Field \"" ++ path ++ "\" must be >= " ++ bound.text) path written
      facets.demand .max facets.max (atMost x)
        (fun bound => "Field \"" ++ path ++ "\" must be <= " ++ bound.text) path written
      return written) = .ok output ↔ output = written ∧
        (∀ c ∈ facets.min, atLeast x c.value = true) ∧
        ∀ c ∈ facets.max, atMost x c.value = true := by
    simp only [bind_eq_ok, Facets.demand_eq_ok]
    constructor
    · rintro ⟨-, hmin, -, hmax, heq⟩
      cases heq
      exact ⟨rfl, hmin, hmax⟩
    · rintro ⟨rfl, hmin, hmax⟩
      exact ⟨(), hmin, (), hmax, rfl⟩
  unfold checkNumber
  by_cases hkind : kind = int32
  · by_cases hwhole : x.isIntegral = true
    · by_cases hfits : fitsInt32 x = true
      · simpa [hkind, hwhole, hfits] using hbounds
      · simp [hkind, hwhole, hfits, bind, Except.bind, throw, throwThe, MonadExceptOf.throw]
    · simp [hkind, hwhole, bind, Except.bind, throw, throwThe, MonadExceptOf.throw]
  · simpa [hkind] using hbounds

theorem readNumber_eq_ok {kind : Kind} {facets : Facets} {value : Json} {path : String}
    {output : Json} :
    kind.readNumber facets value path = .ok output ↔
      ∃ x asGiven, numeral? facets.coerce value = some (.finite x, asGiven) ∧
        kind.checkNumber facets x (if asGiven then value else .number (.ofBinary64 x)) value path =
          .ok output := by
  unfold readNumber
  rcases numeral? facets.coerce value with _ | ⟨numeral, asGiven⟩
  · simp
  · cases numeral with
    | finite x =>
        constructor
        · exact fun h => ⟨x, asGiven, rfl, h⟩
        · rintro ⟨_, _, ⟨⟩, h⟩
          exact h
    | infinite negative => simp
    | undefined => simp

/-- A date is written in canonical form or as it was, when it is within the bounds. -/
theorem readDate_eq_ok {facets : Facets} {value : Json} {path : String} {output : Json} :
    readDate facets value path = .ok output ↔
      ∃ t, instant? facets.coerce value = some t ∧
        output = (if facets.coerce then .string t.write else value) ∧
        (∀ c ∈ facets.min, notBefore t c.value = true) ∧
        ∀ c ∈ facets.max, notAfter t c.value = true := by
  unfold readDate
  cases instant? facets.coerce value with
  | none => simp
  | some t =>
      simp only [bind_eq_ok, Facets.demand_eq_ok, Option.some.injEq]
      constructor
      · rintro ⟨-, hmin, -, hmax, heq⟩
        cases heq
        exact ⟨t, rfl, rfl, hmin, hmax⟩
      · rintro ⟨_, rfl, rfl, hmin, hmax⟩
        exact ⟨(), hmin, (), hmax, rfl⟩

/-- The rule of a kind lets an empty value through unless it is required, and reads any other. -/
theorem rule_eq_ok {kind : Kind} {info : TypeInfo} {facets : Facets} {value : Json} {path : String}
    {output : Json} :
    kind.rule info facets value path = .ok output ↔
      kind.isEmptyValue value = true ∧ facets.isRequired = false ∧ output = value ∨
        kind.isEmptyValue value = false ∧ kind.readValue facets value path = .ok output := by
  unfold rule
  cases kind.isEmptyValue value with
  | false => simp
  | true =>
      cases facets.isRequired with
      | false => simp [eq_comm]
      | true => simp

end Kind

/-! ## Fields -/

/-- A given value is accepted when it is not missing and when what its rule writes meets the facets
of every type, unless that is empty. -/
theorem Field.checkPresent_eq_ok {field : Field} {path : String} {value output : Json} :
    field.checkPresent path value = .ok output ↔
      (field.facets.isRequired = true → field.isEmptyValue value = false) ∧
        field.applyRule value path = .ok output ∧
        (field.isEmptyValue output = false → field.facets.checkValue output path = .ok ()) := by
  unfold checkPresent
  by_cases hmissing : (field.facets.isRequired && field.isEmptyValue value) = true
  · rcases Bool.and_eq_true_iff.1 hmissing with ⟨hrequired, hempty⟩
    simp [hrequired, hempty, bind, Except.bind, throw, throwThe, MonadExceptOf.throw]
  · have hgiven : field.facets.isRequired = true → field.isEmptyValue value = false := by
      intro hrequired
      simpa [hrequired] using hmissing
    rw [if_neg hmissing]
    refine Iff.trans bind_eq_ok ?_
    -- What the rule writes is checked further only when it is not empty.
    constructor
    · rintro ⟨written, hrule, hchecks⟩
      cases hempty : field.isEmptyValue written with
      | true =>
          simp only [hempty] at hchecks
          cases hchecks
          exact ⟨hgiven, hrule, fun hwritten => absurd (hempty.symm.trans hwritten) (by decide)⟩
      | false =>
          simp only [hempty] at hchecks
          rcases bind_eq_ok.1 hchecks with ⟨_, hvalue, heq⟩
          cases heq
          exact ⟨hgiven, hrule, fun _ => hvalue⟩
    · rintro ⟨-, hrule, hchecks⟩
      refine ⟨output, hrule, ?_⟩
      cases hempty : field.isEmptyValue output with
      | true => rfl
      | false => exact bind_eq_ok.2 ⟨(), hchecks hempty, rfl⟩

/-- A value whose rule writes one that is not empty is judged further by the checks of every
type. -/
theorem Field.checkPresent_eq_checkValue {field : Field} {path : String} {value output : Json}
    (hgiven : field.isEmptyValue value = false) (hrule : field.applyRule value path = .ok output)
    (houtput : field.isEmptyValue output = false) :
    field.checkPresent path value =
      (field.facets.checkValue output path >>= fun _ => .ok output) := by
  unfold checkPresent
  rw [hgiven, Bool.and_false, if_neg Bool.false_ne_true, hrule]
  change (if (!field.isEmptyValue output) = true then
    field.facets.checkValue output path >>= fun _ => .ok output else .ok output) = _
  rw [houtput]
  rfl

theorem Field.isEmptyValue_of_builtin {field : Field} {kind : Kind}
    (hkind : field.type = .builtin kind) (value : Json) :
    field.isEmptyValue value = kind.isEmptyValue value := by
  rw [isEmptyValue, hkind]
  rfl

theorem Field.applyRule_of_builtin {field : Field} {kind : Kind}
    (hkind : field.type = .builtin kind) (value : Json) (path : String) :
    field.applyRule value path = kind.rule field.type.info field.facets value path := by
  rw [applyRule, hkind]
  rfl

/-! ## Values that meet what is declared -/

/-- The form of the values that a kind writes. -/
def Kind.HasForm : Kind → Json → Prop
  | string, value | date, value => ∃ text, value = .string text
  | boolean, value => ∃ b, value = .bool b
  | number, value | int32, value | decimal128, value | double, value => ∃ n, value = .number n
  | object, value => ∃ members, value = .object members
  | array, value => ∃ items, value = .array items

/-- A value meets everything that a field of a kind declares. -/
structure Facets.MetBy (facets : Facets) (kind : Kind) (value : Json) : Prop where
  form : kind.HasForm value
  /-- A string is as long as declared, in characters. -/
  length : kind = .string → ∀ text, value = .string text →
    (∀ c ∈ facets.minLength, c.value ≤ text.length) ∧
      ∀ c ∈ facets.maxLength, text.length ≤ c.value
  /-- The bounds of numbers are numbers, and the value is between them. -/
  range : kind.isNumeric = true → ∀ n, value = .number n →
    (∀ c ∈ facets.min, ∃ bound, c.value = .number bound ∧ bound ≤ n.toBinary64) ∧
      ∀ c ∈ facets.max, ∃ bound, c.value = .number bound ∧ n.toBinary64 ≤ bound
  /-- An integer is one of 32 bits. -/
  whole : kind = .int32 → ∀ n, value = .number n → n.toBinary64.isIntegral = true ∧
    -2 ^ 31 ≤ n.toBinary64.toInt ∧ n.toBinary64.toInt ≤ 2 ^ 31 - 1
  allowed : ∀ c ∈ facets.allowed, isAllowed c.value value = true
  pattern : ∀ c ∈ facets.pattern, c.value.accepts value = true
  check : ∀ c ∈ facets.check, c.value value = true

/-- A bound on numbers from below holds of every number of the same value. -/
theorem Kind.exists_of_atLeast {x y : Binary64} (hvalue : y.signedUnits = x.signedUnits)
    {bound : Bound} (hsort : bound.isDate = false) (h : atLeast x bound = true) :
    ∃ b, bound = .number b ∧ b ≤ y := by
  cases bound with
  | number b =>
      have hle : b.signedUnits ≤ x.signedUnits := of_decide_eq_true h
      refine ⟨b, rfl, ?_⟩
      rwa [Binary64.le_iff, hvalue]
  | date t => exact Bool.noConfusion hsort

theorem Kind.exists_of_atMost {x y : Binary64} (hvalue : y.signedUnits = x.signedUnits)
    {bound : Bound} (hsort : bound.isDate = false) (h : atMost x bound = true) :
    ∃ b, bound = .number b ∧ y ≤ b := by
  cases bound with
  | number b =>
      have hle : x.signedUnits ≤ b.signedUnits := of_decide_eq_true h
      refine ⟨b, rfl, ?_⟩
      rwa [Binary64.le_iff, hvalue]
  | date t => exact Bool.noConfusion hsort

/-- A number that is given as such is read as it is. -/
theorem Kind.toBinary64_of_numeral? {coerce : Bool} {value : Json} {x : Binary64}
    (h : numeral? coerce value = some (.finite x, true)) :
    ∃ n, value = .number n ∧ n.toBinary64 = x := by
  cases value with
  | number n =>
      cases h
      exact ⟨n, rfl, rfl⟩
  | string s =>
      cases coerce with
      | false => exact absurd h (by simp [numeral?])
      | true => simp [numeral?] at h
  | bool b => cases coerce <;> simp [numeral?] at h
  | null | array _ | object _ => exact absurd h (by simp [numeral?])

/-- What is written for a numeral is a number of its value. -/
theorem Kind.number_of_readNumber {kind : Kind} {facets : Facets} {value : Json} {path : String}
    {output : Json} (h : kind.readNumber facets value path = .ok output) :
    ∃ n x, output = .number n ∧ n.toBinary64.signedUnits = x.signedUnits ∧
      (kind = int32 → x.isIntegral = true ∧ fitsInt32 x = true) ∧
      (∀ c ∈ facets.min, atLeast x c.value = true) ∧
      ∀ c ∈ facets.max, atMost x c.value = true := by
  rcases readNumber_eq_ok.1 h with ⟨x, asGiven, hnumeral, hcheck⟩
  rcases checkNumber_eq_ok.1 hcheck with ⟨hwritten, hchecks⟩
  -- A number given as such is written as it is, any other numeral in the form of its value.
  cases asGiven with
  | true =>
      rcases toBinary64_of_numeral? hnumeral with ⟨n, rfl, rfl⟩
      exact ⟨n, n.toBinary64, hwritten, rfl, hchecks⟩
  | false => exact ⟨.ofBinary64 x, x, hwritten, Json.Number.signedUnits_ofBinary64 x, hchecks⟩

theorem Kind.bool_of_readBoolean {facets : Facets} {value : Json} {path : String} {output : Json}
    (h : readBoolean facets value path = .ok output) : ∃ b, output = .bool b := by
  unfold readBoolean at h
  -- A boolean, a number, a word, and all that is no boolean.
  split at h
  · cases h
    exact ⟨_, rfl⟩
  · split at h <;> cases h
    exact ⟨_, rfl⟩
  · split at h <;> cases h
    exact ⟨_, rfl⟩
  · cases h

theorem Kind.string_of_readDate {facets : Facets} {value : Json} {path : String} {output : Json}
    (h : readDate facets value path = .ok output) : ∃ text, output = .string text := by
  rcases readDate_eq_ok.1 h with ⟨t, hinstant, rfl, -⟩
  cases hcoerce : facets.coerce with
  | true => exact ⟨t.write, rfl⟩
  | false =>
      -- Without coercion only a string denotes a date.
      rw [hcoerce] at hinstant
      cases value with
      | string text => exact ⟨text, rfl⟩
      | null | bool _ | number _ | array _ | object _ => exact absurd hinstant (by simp [instant?])

/-- What the rule of a kind writes for a value that is not empty has the form of the kind. -/
theorem Kind.hasForm_of_readValue {kind : Kind} {facets : Facets} {value : Json} {path : String}
    {output : Json} (h : kind.readValue facets value path = .ok output) : kind.HasForm output := by
  cases kind with
  | string =>
      rcases readString_eq_ok.1 h with ⟨text, -, rfl, -⟩
      exact ⟨_, rfl⟩
  | boolean => exact bool_of_readBoolean h
  | number | int32 | decimal128 | double =>
      rcases number_of_readNumber h with ⟨n, -, rfl, -⟩
      exact ⟨n, rfl⟩
  | date => exact string_of_readDate h
  | object =>
      cases value with
      | object members =>
          cases h
          exact ⟨members, rfl⟩
      | _ => cases h
  | array =>
      cases value with
      | array items =>
          cases h
          exact ⟨items, rfl⟩
      | _ => cases h

theorem Kind.readValue_of_isNumeric {kind : Kind} (hkind : kind.isNumeric = true) (facets : Facets)
    (value : Json) (path : String) :
    kind.readValue facets value path = kind.readNumber facets value path := by
  cases kind with
  | number | int32 | decimal128 | double => rfl
  | string | boolean | date | object | array => exact Bool.noConfusion hkind

/-- What a field of a built-in kind writes for a given value meets everything that the field
declares, unless it is empty. -/
theorem Field.metBy_of_checkPresent {field : Field} {kind : Kind}
    (hkind : field.type = .builtin kind) (hbounds : field.facets.HasBounds field.type.isDated)
    {path : String} {value output : Json} (h : field.checkPresent path value = .ok output)
    (hnonempty : field.isEmptyValue output = false) : field.facets.MetBy kind output := by
  rcases checkPresent_eq_ok.1 h with ⟨-, hrule, hchecks⟩
  rcases Facets.checkValue_eq_ok.1 (hchecks hnonempty) with ⟨hallowed, hpattern, hcheck⟩
  have hread : kind.readValue field.facets value path = .ok output := by
    rw [applyRule_of_builtin hkind] at hrule
    rcases Kind.rule_eq_ok.1 hrule with ⟨hempty, -, rfl⟩ | ⟨-, hread⟩
    · -- An empty value that is let through is written as it is, and stays empty.
      rw [isEmptyValue_of_builtin hkind] at hnonempty
      exact absurd (hempty.symm.trans hnonempty) (by decide)
    · exact hread
  refine ⟨Kind.hasForm_of_readValue hread, ?_, ?_, ?_, hallowed, hpattern, hcheck⟩
  · rintro rfl text rfl
    rcases Kind.readString_eq_ok.1 hread with ⟨given, -, hwritten, hmin, hmax⟩
    cases hwritten
    exact ⟨hmin, hmax⟩
  · rintro hnumeric n rfl
    rw [Kind.readValue_of_isNumeric hnumeric] at hread
    rcases Kind.number_of_readNumber hread with ⟨m, x, hwritten, hvalue, -, hmin, hmax⟩
    cases hwritten
    -- Only dates are bounded by dates, so no bound of a number is passed over.
    have hsort : field.type.isDated = false := by
      rw [hkind]
      cases kind with
      | number | int32 | decimal128 | double => rfl
      | string | boolean | date | object | array => exact Bool.noConfusion hnumeric
    rw [hsort] at hbounds
    exact ⟨fun c hc => Kind.exists_of_atLeast hvalue (hbounds.min c hc) (hmin c hc),
      fun c hc => Kind.exists_of_atMost hvalue (hbounds.max c hc) (hmax c hc)⟩
  · rintro rfl n rfl
    rcases Kind.number_of_readNumber hread with ⟨m, x, hwritten, hvalue, hwhole, -⟩
    cases hwritten
    rcases hwhole rfl with ⟨hintegral, hfits⟩
    have hrange : -2 ^ 31 ≤ x.toInt ∧ x.toInt < 2 ^ 31 := of_decide_eq_true hfits
    rw [Binary64.isIntegral_congr hvalue, Binary64.toInt_congr hvalue]
    exact ⟨hintegral, hrange.1, Int.le_sub_one_of_lt hrange.2⟩

end Conform
