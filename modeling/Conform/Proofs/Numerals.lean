import Conform.Proofs.Accord
import Conform.Proofs.Membership
import Conform.Proofs.Reshaping

/-!
# Integers given as text

A field of numbers that coerces takes an integer as a number or in decimal digits.  Both are read as
the same float, so both are judged alike; but a number that is given as such is written as it was,
and the digits are written in the form of the float.  This file defines:

* `Violation.SaysLike`: two violations that differ in the value they show at most.

The main statement is `Field.checkPresent_integerText`, and `exists_checkPresent_rounded` is an
integer that is changed when it is given as text.
-/

namespace Conform

/-! ## Reading digits -/

namespace Numeral

/-- Digits up to the end are read as one number after what has been read. -/
theorem readDigits_eq {digits : List Char} (h : ∀ c ∈ digits, c.isDigit) (seen count : Nat) :
    readDigits digits seen count =
      (Nat.ofDigitChars 10 digits seen, count + digits.length, []) := by
  induction digits generalizing seen count with
  | nil => simp [readDigits]
  | cons c rest ih =>
      have hdigit := digit?_of_isDigit (h c List.mem_cons_self)
      have hrest := ih (fun d hd => h d (List.mem_cons_of_mem c hd))
        (seen * 10 + (c.toNat - '0'.toNat)) (count + 1)
      rw [Nat.ofDigitChars_cons, Nat.mul_comm 10 seen]
      simp only [readDigits, hdigit, hrest, List.length_cons]
      congr 2
      omega

theorem readUnsigned?_toDigits (negative : Bool) (n : Nat) :
    readUnsigned? negative (Nat.toDigits 10 n) = some ⟨negative, n, 0⟩ := by
  have hdigits : ∀ c ∈ Nat.toDigits 10 n, c.isDigit := fun c hc => isDigit_toDigits hc
  have hread := readDigits_eq hdigits 0 0
  have hpos : (Nat.toDigits 10 n).length ≠ 0 := Nat.ne_of_gt Nat.length_toDigits_pos
  simp [readUnsigned?, hread, readExponent?, Nat.ofDigitChars_ten_toDigits, hpos]

theorem asciiLower_of_isDigit {c : Char} (h : c.isDigit) : asciiLower c = c := by
  have hrange : c.toNat ≤ 57 := (Char.isDigit_iff_toNat.1 h).2
  unfold asciiLower
  rw [if_neg]
  rintro ⟨hupper, -⟩
  have hupper : 65 ≤ c.toNat := hupper
  omega

/-- Digits are no word: after any sign they are read as the decimal that they are. -/
theorem read?_toDigits {text : List Char} {negative : Bool} {n : Nat} {x : Binary64}
    (hsign : readSign text = (negative, Nat.toDigits 10 n))
    (hdecimal : Binary64.ofDecimal? ⟨negative, n, 0⟩ = some x) :
    read? text = some (.finite x) := by
  have hlower : (Nat.toDigits 10 n).map asciiLower = Nat.toDigits 10 n :=
    calc
      (Nat.toDigits 10 n).map asciiLower = (Nat.toDigits 10 n).map id :=
        List.map_congr_left fun c hc => asciiLower_of_isDigit (isDigit_toDigits hc)
      _ = Nat.toDigits 10 n := List.map_id _
  have hword : ∀ word : String, (∃ c ∈ word.toList, c.isDigit = false) →
      String.ofList (Nat.toDigits 10 n) ≠ word := by
    rintro _ ⟨c, hc, hletter⟩ rfl
    rw [String.toList_ofList] at hc
    exact absurd hc (not_mem_toDigits hletter n)
  have hinf := hword "inf" ⟨'i', by decide, by decide⟩
  have hinfinity := hword "infinity" ⟨'i', by decide, by decide⟩
  have hnan := hword "nan" ⟨'n', by decide, by decide⟩
  simp only [read?, hsign, hlower, hinf, hinfinity, hnan, or_self, if_false,
    readUnsigned?_toDigits, Option.map_some, hdecimal]

end Numeral

/-- A whole decimal is rounded once, as the integer is. -/
theorem Binary64.ofDecimal?_whole {n : Int} (h : n.natAbs ≤ 2 ^ 64) :
    ofDecimal? ⟨decide (n < 0), n.natAbs, 0⟩ = some (ofInt n h) := by
  unfold ofDecimal?
  by_cases hzero : n.natAbs = 0
  · obtain rfl : n = 0 := Int.natAbs_eq_zero.1 hzero
    simp [ofInt, zero, nearestUnits, roundHalfEven]
  · have hlog : ¬ (0 : Int) < -(401 + (n.natAbs.log2 : Int)) := by omega
    have hlimit : nearestUnits (n.natAbs * unitsPerOne) 1 < limit := nearestUnits_lt_limit h
    have hbig : ¬ (400 : Int) < 0 := by decide
    rw [if_neg hzero, if_neg hbig, if_neg hlog, if_pos (Int.le_refl 0)]
    simp only [ofRatio?, round?, Int.toNat_zero, Nat.pow_zero, Nat.mul_one, dif_pos hlimit, ofInt]

namespace Json.Number

/-- The sign of an integer is read off its text. -/
theorem readSign_integerText (n : Int) :
    Numeral.readSign (integerText n) = (decide (n < 0), Nat.toDigits 10 n.natAbs) := by
  unfold integerText
  by_cases hsign : n < 0
  · rw [if_pos hsign, decide_eq_true hsign]
    rfl
  · rw [if_neg hsign, decide_eq_false hsign]
    -- A digit in front is no sign.
    unfold Numeral.readSign
    split
    · next rest htext => exact absurd (htext ▸ List.mem_cons_self) (not_mem_toDigits (by decide) _)
    · next rest htext => exact absurd (htext ▸ List.mem_cons_self) (not_mem_toDigits (by decide) _)
    · rfl

/-- An integer in decimal digits has no blanks around it. -/
theorem isTrimmed_integerText (n : Int) : IsTrimmed (integerText n) := by
  have hink : ∀ c ∈ integerText n, Conform.isBlank c = false := by
    have hdigits : ∀ c ∈ Nat.toDigits 10 n.natAbs, Conform.isBlank c = false :=
      fun c hc => isBlank_of_isDigit (isDigit_toDigits hc)
    unfold integerText
    split
    · intro c hc
      rcases List.mem_cons.1 hc with rfl | hc
      · decide
      · exact hdigits c hc
    · exact hdigits
  exact ⟨fun c hc => hink c (List.mem_of_head? hc), fun c hc => hink c (List.mem_of_getLast? hc)⟩

/-- An integer in decimal digits is read as the float nearest to it. -/
theorem read?_integerText {n : Int} (h : n.natAbs ≤ 2 ^ 64) :
    Numeral.read? (trimChars (integerText n)) = some (.finite (.ofInt n h)) := by
  rw [(isTrimmed_integerText n).trimChars_eq]
  exact Numeral.read?_toDigits (readSign_integerText n) (Binary64.ofDecimal?_whole h)

end Json.Number

/-! ## Judging both forms -/

/-- Two violations differ in the value they show at most. -/
structure Violation.SaysLike (v w : Violation) : Prop where
  fault : v.fault = w.fault
  message : v.message = w.message
  path : v.path = w.path

theorem Violation.SaysLike.refl (v : Violation) : v.SaysLike v := ⟨rfl, rfl, rfl⟩

/-- A clause that is met by both of two values or by neither is enforced alike. -/
theorem Facets.demand_saysLike {α : Type} {facets : Facets} {fault : Fault}
    {clause : Option (Clause α)} {holds holds' : α → Bool}
    (h : ∀ c ∈ clause, holds c.value = holds' c.value) (fallback : α → String) (path : String)
    (value value' : Json) :
    EndsAlike Violation.SaysLike Eq (facets.demand fault clause holds fallback path value)
      (facets.demand fault clause holds' fallback path value') := by
  cases clause with
  | none => exact EndsAlike.ok rfl
  | some c =>
      have hholds := h c rfl
      simp only [demand, hholds]
      split
      · exact EndsAlike.ok rfl
      · exact EndsAlike.error ⟨rfl, rfl, rfl⟩

namespace Kind

/-- A number is judged by its value, whatever is written for it. -/
theorem checkNumber_saysLike (kind : Kind) (facets : Facets) (x : Binary64) (path : String)
    (output output' value value' : Json) :
    EndsAlike Violation.SaysLike (fun a b => a = output ∧ b = output')
      (kind.checkNumber facets x output value path)
      (kind.checkNumber facets x output' value' path) := by
  have hbounds : EndsAlike Violation.SaysLike (fun a b => a = output ∧ b = output')
      (do
        facets.demand .min facets.min (atLeast x)
          (fun bound => "Field \"" ++ path ++ "\" must be >= " ++ bound.text) path output
        facets.demand .max facets.max (atMost x)
          (fun bound => "Field \"" ++ path ++ "\" must be <= " ++ bound.text) path output
        return output)
      (do
        facets.demand .min facets.min (atLeast x)
          (fun bound => "Field \"" ++ path ++ "\" must be >= " ++ bound.text) path output'
        facets.demand .max facets.max (atMost x)
          (fun bound => "Field \"" ++ path ++ "\" must be <= " ++ bound.text) path output'
        return output') := by
    apply EndsAlike.bind (Facets.demand_saysLike (fun _ _ => rfl) _ _ _ _)
    intro _ _ _
    apply EndsAlike.bind (Facets.demand_saysLike (fun _ _ => rfl) _ _ _ _)
    intro _ _ _
    exact EndsAlike.ok ⟨rfl, rfl⟩
  unfold checkNumber
  by_cases hkind : kind = int32
  · by_cases hwhole : x.isIntegral = true
    · by_cases hfits : fitsInt32 x = true
      · simpa [hkind, hwhole, hfits] using hbounds
      · simp only [hkind, hwhole, hfits]
        exact EndsAlike.error ⟨rfl, rfl, rfl⟩
    · simp only [hkind, hwhole]
      exact EndsAlike.error ⟨rfl, rfl, rfl⟩
  · simpa [hkind] using hbounds

variable {kind : Kind} {facets : Facets} {n : Int}

theorem isEmptyValue_integerText (hkind : kind.isNumeric = true) (n : Int) :
    kind.isEmptyValue (.string (String.ofList (Json.Number.integerText n))) = false := by
  have hne : Json.Number.integerText n ≠ [] := by
    unfold Json.Number.integerText
    split
    · exact List.cons_ne_nil _ _
    · exact Nat.toDigits_ne_nil
  have htext : (Json.string (String.ofList (Json.Number.integerText n))).isEmpty = false := by
    apply Bool.eq_false_iff.2
    intro hempty
    apply hne
    simpa using congrArg String.toList (isEmpty_string_iff.1 hempty)
  cases kind with
  | number | int32 | decimal128 | double => exact htext
  | string | boolean | date | object | array => exact Bool.noConfusion hkind

/-- The rule of a kind of numbers that coerces judges an integer and its digits alike; it writes the
integer as it was, and the digits as the float that they are read as. -/
theorem rule_integerText (hkind : kind.isNumeric = true) (hcoerce : facets.coerce = true)
    (h : Json.InIntegerRange n) (info : TypeInfo) (path : String) :
    EndsAlike Violation.SaysLike
      (fun a b => a = .number (.ofBinary64 (Json.Number.integer n h).toBinary64) ∧
        b = .number (.integer n h))
      (kind.rule info facets (.string (String.ofList (Json.Number.integerText n))) path)
      (kind.rule info facets (.number (.integer n h)) path) := by
  have hinteger : kind.isEmptyValue (.number (.integer n h)) = false := by
    cases kind <;> rfl
  have hdigits : kind.isEmptyValue (.string (String.ofList (Json.Number.integerText n))) = false :=
    isEmptyValue_integerText hkind n
  have hread : numeral? true (.string (String.ofList (Json.Number.integerText n))) =
      some (.finite (Json.Number.integer n h).toBinary64, false) := by
    simp only [numeral?, if_true, String.toList_ofList,
      Json.Number.read?_integerText (Json.Number.natAbs_le_of_inIntegerRange h)]
    rfl
  simp only [rule, hinteger, hdigits, readValue_of_isNumeric hkind, readNumber, hcoerce, hread]
  exact checkNumber_saysLike kind facets _ path _ _ _ _

end Kind

/-! ## Fields -/

/-- Numbers that are read as one value are allowed together. -/
theorem isAllowed_number_congr {a b : Json.Number}
    (h : a.toBinary64.signedUnits = b.toBinary64.signedUnits) (values : List Json) :
    isAllowed values (.number a) = isAllowed values (.number b) := by
  have hsame : ∀ c : Json.Number, c.sameValue a = c.sameValue b := by
    intro c
    simp only [Json.Number.sameValue, Binary64.sameValue, h]
  rw [Bool.eq_iff_iff, isAllowed_number, isAllowed_number]
  simp only [hsame]

/-- Two values of which the facets of every type hold alike are checked alike. -/
theorem Facets.checkValue_saysLike {facets : Facets} {a b : Json}
    (hallowed : ∀ values, isAllowed values a = isAllowed values b)
    (hpattern : ∀ c ∈ facets.pattern, c.value.accepts a = c.value.accepts b)
    (hcheck : ∀ c ∈ facets.check, c.value a = c.value b) (path : String) :
    EndsAlike Violation.SaysLike Eq (facets.checkValue a path) (facets.checkValue b path) := by
  apply EndsAlike.bind (demand_saysLike (fun c _ => hallowed c.value) _ _ _ _)
  intro _ _ _
  apply EndsAlike.bind (demand_saysLike hpattern _ _ _ _)
  intro _ _ _
  exact demand_saysLike hcheck _ _ _ _

namespace Field

variable {field : Field} {kind : Kind} {n : Int}

/-- A field of numbers accepts an integer and its digits alike, when it cannot tell apart what is
written for them. -/
theorem checkPresent_saysLike (hkind : field.type = .builtin kind)
    (hnumeric : kind.isNumeric = true) (hcoerce : field.facets.coerce = true)
    (h : Json.InIntegerRange n)
    (hblind : Json.Number.ofBinary64 (Json.Number.integer n h).toBinary64 = .integer n h ∨
      field.facets.pattern = none ∧ field.facets.check = none) (path : String) :
    EndsAlike Violation.SaysLike
      (fun a b => a = .number (.ofBinary64 (Json.Number.integer n h).toBinary64) ∧
        b = .number (.integer n h))
      (field.checkPresent path (.string (String.ofList (Json.Number.integerText n))))
      (field.checkPresent path (.number (.integer n h))) := by
  have hnonempty : ∀ m, field.isEmptyValue (.number m) = false := by
    intro m
    rw [isEmptyValue_of_builtin hkind]
    cases kind <;> rfl
  have hdigits :
      field.isEmptyValue (.string (String.ofList (Json.Number.integerText n))) = false := by
    rw [isEmptyValue_of_builtin hkind]
    exact Kind.isEmptyValue_integerText hnumeric n
  have hchecks : EndsAlike Violation.SaysLike Eq
      (field.facets.checkValue
        (.number (.ofBinary64 (Json.Number.integer n h).toBinary64)) path)
      (field.facets.checkValue (.number (.integer n h)) path) := by
    rcases hblind with hsame | ⟨hpattern, hcheck⟩
    · rw [hsame]
      exact EndsAlike.refl Violation.SaysLike.refl fun _ _ => rfl
    · -- Lists of allowed values see no more of a number than its value.
      refine Facets.checkValue_saysLike ?_ ?_ ?_ path
      · exact isAllowed_number_congr (Json.Number.signedUnits_ofBinary64 _)
      · simp [hpattern]
      · simp [hcheck]
  simp only [checkPresent, hnonempty, hdigits, Bool.and_false, applyRule_of_builtin hkind]
  apply EndsAlike.bind (Kind.rule_integerText hnumeric hcoerce h _ path)
  rintro _ _ ⟨rfl, rfl⟩
  simp only [hnonempty]
  apply EndsAlike.bind hchecks
  intro _ _ _
  exact EndsAlike.ok ⟨rfl, rfl⟩

/-- An integer and its digits are accepted alike and refused alike by a field of numbers that
coerces.  What is written for the digits is the integer itself exactly when a float has its value
and it is less than `2 ^ 63`; otherwise it is the number of the nearest float, which only a pattern
or a check of the field can tell from the integer. -/
theorem checkPresent_integerText (hkind : field.type = .builtin kind)
    (hnumeric : kind.isNumeric = true) (hcoerce : field.facets.coerce = true)
    (h : Json.InIntegerRange n) (path : String) :
    let digits := Json.string (String.ofList (Json.Number.integerText n))
    let given := Json.number (.integer n h)
    let written := Json.number (.ofBinary64 (Json.Number.integer n h).toBinary64)
    (n < 2 ^ 63 → (∃ x : Binary64, x.signedUnits = n * Binary64.unitsPerOne) →
        EndsAlike Violation.SaysLike Eq (field.checkPresent path digits)
          (field.checkPresent path given)) ∧
      (written = given ↔ n < 2 ^ 63 ∧ ∃ x : Binary64, x.signedUnits = n * Binary64.unitsPerOne) ∧
      (field.facets.pattern = none → field.facets.check = none →
        EndsAlike Violation.SaysLike (fun a b => a = written ∧ b = given)
          (field.checkPresent path digits) (field.checkPresent path given)) := by
  intro digits given written
  have hwritten := Json.Number.ofBinary64_toBinary64_iff h
  refine ⟨?_, ?_, ?_⟩
  · intro hless hexact
    have hsame := hwritten.2 ⟨hless, hexact⟩
    apply (checkPresent_saysLike hkind hnumeric hcoerce h (Or.inl hsame) path).mono
    · exact fun _ _ hlike => hlike
    · rintro _ _ ⟨rfl, rfl⟩
      rw [hsame]
  · rw [← hwritten]
    exact ⟨Json.number.inj, congrArg Json.number⟩
  · intro hpattern hcheck
    exact checkPresent_saysLike hkind hnumeric hcoerce h (Or.inr ⟨hpattern, hcheck⟩) path

/-- A price of at most `10 ^ 18`. -/
def priceField : Field :=
  ⟨.builtin .decimal128,
    { coerce := true
      min := some ⟨.number (.ofInt 0 (by decide)), none⟩
      max := some ⟨.number (.ofInt (10 ^ 18) (by decide)), some "too dear"⟩ }⟩

theorem checkPresent_integerText_price :
    Kind.decimal128.isNumeric = true ∧ priceField.facets.coerce = true ∧
      (9007199254740994 : Int) < 2 ^ 63 ∧
      (∃ x : Binary64, x.signedUnits = 9007199254740994 * Binary64.unitsPerOne) ∧
      EndsAlike Violation.SaysLike Eq (priceField.checkPresent "price" (.string "9007199254740994"))
        (priceField.checkPresent "price" (.number (.integer 9007199254740994 (by decide)))) := by
  have hexact : ∃ x : Binary64, x.signedUnits = 9007199254740994 * Binary64.unitsPerOne :=
    ⟨.ofInt 9007199254740994 (by decide), by decide +kernel⟩
  obtain ⟨hends, -⟩ := @checkPresent_integerText priceField .decimal128 9007199254740994 rfl
    (by decide) rfl (by decide) "price"
  exact ⟨by decide, rfl, by decide, hexact, hends (by decide) hexact⟩

/-- A field of numbers without any facets but coercion. -/
def countField : Field := ⟨.builtin .number, { coerce := true }⟩

/-- The integer `2 ^ 53 + 1` is written as `2 ^ 53` when it is given in digits. -/
theorem exists_checkPresent_rounded :
    ¬ ∀ (field : Field) (kind : Kind) (n : Int) (h : Json.InIntegerRange n) (path : String),
      field.type = .builtin kind → kind.isNumeric = true → field.facets.coerce = true →
      EndsAlike (fun v w => v.fault = w.fault) Eq
        (field.checkPresent path (.string (String.ofList (Json.Number.integerText n))))
        (field.checkPresent path (.number (.integer n h))) := by
  intro hclaim
  have hrange : Json.InIntegerRange (2 ^ 53 + 1) := by decide
  have hrounded : Json.Number.ofBinary64 (Json.Number.integer (2 ^ 53 + 1) (by decide)).toBinary64 ≠
      .integer (2 ^ 53 + 1) (by decide) := by decide +kernel
  have hsame := hclaim countField .number _ hrange "n" rfl rfl rfl
  have hends := @checkPresent_saysLike countField .number _ rfl rfl rfl hrange
    (Or.inr ⟨rfl, rfl⟩) "n"
  have hgiven : countField.checkPresent "n" (.number (.integer (2 ^ 53 + 1) hrange)) =
      .ok (.number (.integer (2 ^ 53 + 1) hrange)) := rfl
  rw [hgiven] at hsame hends
  obtain ⟨_, hread, heq⟩ := hsame.exists_of_ok_right
  obtain ⟨_, hread', hwritten, -⟩ := hends.exists_of_ok_right
  cases hread.symm.trans hread'
  exact hrounded (Json.number.inj (hwritten.symm.trans heq))

end Field

end Conform
