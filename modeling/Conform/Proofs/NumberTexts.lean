import Conform.Proofs.ExactValues
import Conform.Proofs.Emptiness
import Conform.Proofs.Unchanged

/-!
# Numbers as texts

A field of strings that coerces writes a number as text: an integer in decimal digits, and a whole
float in the digits of the integer that it is, as long as that is a signed 64-bit integer.  From
there on a float is written with an exponent, which no integer is.  This file defines:

* `Facets.TakesNumbers`: facets that ask nothing of the text of a number.

The main statement is `Field.checkPresent_equalNumbers`, and `exists_checkPresent_unequalTexts` is
an integer whose text is not that of the float of its value.
-/

namespace Conform

/-! ## Texts of integers -/

/-- An integer is written in the usual way. -/
theorem Json.Number.ofList_integerText (n : Int) : String.ofList (integerText n) = toString n := by
  rw [Int.toString_eq_repr]
  cases n with
  | ofNat m =>
      have hsign : ¬ Int.ofNat m < 0 := Int.not_lt.2 (Int.natCast_nonneg m)
      rw [integerText, if_neg hsign, Int.repr, Nat.repr_eq_ofList_toDigits]
      rfl
  | negSucc m =>
      rw [integerText, if_pos (Int.negSucc_lt_zero m), Int.repr, Nat.repr_eq_ofList_toDigits]
      rw [String.ofList_cons]
      rfl

/-- Digits and a sign are all that there is in the text of an integer. -/
theorem not_mem_toString {c : Char} (hdigit : c.isDigit = false) (hsign : c ≠ '-') (n : Int) :
    c ∉ (toString n).toList := by
  rw [← Json.Number.ofList_integerText, String.toList_ofList, Json.Number.integerText]
  have hdigits := not_mem_toDigits hdigit n.natAbs
  split
  · exact List.not_mem_cons_of_ne_of_not_mem hsign hdigits
  · exact hdigits

/-! ## Texts of large floats -/

namespace Binary64

theorem lt_length_toDigits {n k : Nat} (h : 10 ^ k ≤ n) : k < (Nat.toDigits 10 n).length := by
  rcases Nat.eq_zero_or_pos k with rfl | hk
  · exact Nat.length_toDigits_pos
  · by_contra hlength
    have hsmall := (Nat.length_toDigits_le_iff (by decide) hk).1 (Nat.not_lt.1 hlength)
    exact absurd h (Nat.not_le.2 hsmall)

theorem le_leadingExponent {units k : Nat} (h : 10 ^ k ≤ units / unitsPerOne) :
    (k : Int) ≤ leadingExponent units := by
  have hwhole : unitsPerOne ≤ units := by
    have hquotient : 0 < units / unitsPerOne := Nat.lt_of_lt_of_le (Nat.pow_pos (by decide)) h
    exact ((Nat.div_pos_iff).1 hquotient).2
  have hlength := lt_length_toDigits h
  rw [leadingExponent, if_pos hwhole]
  omega

/-- Rounding up may carry into one more digit, and nothing makes the exponent less. -/
theorem le_exponent_searchDigits (tie : Tie) (units : Nat) (exponent : Int) (fuel count : Nat) :
    exponent ≤ (searchDigits tie units exponent fuel count).exponent := by
  induction fuel generalizing count with
  | zero => exact Int.le_refl exponent
  | succ fuel ih =>
      unfold searchDigits
      split
      · split
        · exact Int.le_add_one (Int.le_refl exponent)
        · exact Int.le_refl exponent
      · exact ih (count + 1)

theorem scientific_of_le {exponent : Int} (h : 16 ≤ exponent) :
    Json.Number.layout.scientific exponent = true :=
  decide_eq_true (Or.inr h)

/-- A float from `10 ^ 16` on is written with an exponent. -/
theorem text_of_large {x : Binary64} {k : Nat} (hk : 16 ≤ k) (hpositive : x.negative = false)
    (h : 10 ^ k ≤ x.units / unitsPerOne) :
    let shortest := shortestDigits .even x.units
    (k : Int) ≤ shortest.exponent ∧
      x.text Json.Number.layout =
        scientificText (Nat.toDigits 10 shortest.significand) shortest.exponent := by
  intro shortest
  have hexponent : (k : Int) ≤ shortest.exponent :=
    Int.le_trans (le_leadingExponent h) (le_exponent_searchDigits _ _ _ _ _)
  have hnonzero : x.units ≠ 0 := by
    intro hzero
    rw [hzero, Nat.zero_div] at h
    exact absurd h (Nat.not_le.2 (Nat.pow_pos (by decide)))
  have hscientific := scientific_of_le (Int.le_trans (Int.ofNat_le.2 hk) hexponent)
  refine ⟨hexponent, ?_⟩
  simp only [text, hpositive, if_neg hnonzero, Bool.false_eq_true, if_false]
  exact if_pos hscientific

/-- A number above zero has no sign. -/
theorem negative_of_pos {x : Binary64} (h : 0 < x.signedUnits) : x.negative = false := by
  by_contra hnegative
  rw [signedUnits, if_pos (by simpa using hnegative)] at h
  exact absurd h (Int.not_lt.2 (Int.neg_nonpos_of_nonneg (Int.natCast_nonneg _)))

theorem mem_scientificText (digits : List Char) (exponent : Int) :
    'e' ∈ scientificText digits exponent := by
  unfold scientificText
  simp only [List.mem_append]
  left
  right
  split <;> exact List.mem_cons_self

end Binary64

/-! ## Texts of numbers -/

namespace Kind

theorem numberString_integer {n : Int} (h : Json.InIntegerRange n) :
    numberString (.integer n h) = toString n :=
  Json.Number.ofList_integerText n

/-- A whole float from `-2 ^ 63` up to but excluding `2 ^ 63` is written as the integer of its
value. -/
theorem numberString_float {x : Binary64} {n : Int} (hvalue : x.value = n) (hlow : -2 ^ 63 ≤ n)
    (hhigh : n < 2 ^ 63) : numberString (.float x) = toString n := by
  have hsigned := Binary64.value_eq_intCast_iff.1 hvalue
  have hfits := (Json.Number.fitsInteger_iff_of_signedUnits hsigned).2 ⟨hlow, hhigh⟩
  have hint : x.toInt = n := Binary64.toInt_of_signedUnits hsigned
  simp only [numberString, hfits.1, if_true, Json.Number.ofBinary64, dif_pos hfits,
    Json.Number.text, hint]
  exact Json.Number.ofList_integerText n

/-- A whole float from `2 ^ 63` on is written with an exponent. -/
theorem numberString_large {x : Binary64} {n : Int} (hvalue : x.value = n) (hlarge : 2 ^ 63 ≤ n) :
    let shortest := Binary64.shortestDigits .even x.units
    18 ≤ shortest.exponent ∧
      numberString (.float x) = String.ofList
        (Binary64.scientificText (Nat.toDigits 10 shortest.significand) shortest.exponent) := by
  have hsigned := Binary64.value_eq_intCast_iff.1 hvalue
  have hfits : ¬ Json.Number.FitsInteger x := by
    rw [Json.Number.fitsInteger_iff_of_signedUnits hsigned]
    exact fun hrange => absurd hlarge (Int.not_le.2 hrange.2)
  have hform : (if x.isIntegral then Json.Number.ofBinary64 x else .float x) = .float x := by
    rw [Json.Number.ofBinary64, dif_neg hfits, ite_self]
  have hpositive : x.negative = false := by
    apply Binary64.negative_of_pos
    rw [hsigned]
    exact Int.mul_pos (by omega) (Int.natCast_pos.2 Binary64.unitsPerOne_pos)
  have hunits : 10 ^ 18 ≤ x.units / Binary64.unitsPerOne := by
    rw [Binary64.units_of_signedUnits hsigned, Nat.mul_div_cancel _ Binary64.unitsPerOne_pos]
    omega
  obtain ⟨hexponent, htext⟩ := Binary64.text_of_large (by decide) hpositive hunits
  refine ⟨hexponent, ?_⟩
  rw [numberString, hform, Json.Number.text, htext]

/-- The texts of a large integer and of the float of its value differ. -/
theorem numberString_ne {x : Binary64} {n : Int} (hvalue : x.value = n) (hlarge : 2 ^ 63 ≤ n) :
    numberString (.float x) ≠ toString n := by
  intro hsame
  have htext := (numberString_large hvalue hlarge).2
  have hmark := not_mem_toString (c := 'e') (by decide) (by decide) n
  rw [← hsame, htext, String.toList_ofList] at hmark
  exact hmark (Binary64.mem_scientificText _ _)

end Kind

/-! ## Fields of strings -/

/-- A field takes a number as text and asks nothing of the text: neither another form nor a
length. -/
structure Facets.TakesNumbers (facets : Facets) : Prop where
  coerce : facets.coerce = true
  keeps : facets.KeepsText
  minLength : facets.minLength = none
  maxLength : facets.maxLength = none

theorem Kind.readString_number {facets : Facets} (htakes : facets.TakesNumbers) (a : Json.Number)
    (path : String) :
    readString facets (.number a) path = .ok (.string (numberString a)) := by
  have hform : reshape facets (numberString a) = numberString a := reshape_eq_self htakes.keeps _
  refine readString_eq_ok.2 ⟨numberString a, ?_, ?_, ?_, ?_⟩
  · rw [htakes.coerce]
    rfl
  · rw [hform]
  · simp [htakes.minLength]
  · simp [htakes.maxLength]

namespace Field

variable {field : Field}

/-- The rule of strings writes the text of a number. -/
theorem applyRule_number (hstring : field.type = .builtin .string)
    (htakes : field.facets.TakesNumbers) (a : Json.Number) (path : String) :
    field.applyRule (.number a) path = .ok (.string (Kind.numberString a)) := by
  rw [applyRule_of_builtin hstring]
  exact Kind.rule_eq_ok.2 (Or.inr ⟨rfl, Kind.readString_number htakes a path⟩)

/-- The text of a number is never empty. -/
theorem isEmptyValue_numberString (hstring : field.type = .builtin .string)
    (htakes : field.facets.TakesNumbers) (a : Json.Number) :
    field.isEmptyValue (.string (Kind.numberString a)) = false := by
  rw [isEmptyValue_of_builtin hstring]
  refine Bool.eq_false_iff.2 fun hempty => ?_
  have hread : Kind.string.readValue field.facets (.number a) "" =
      .ok (.string (Kind.numberString a)) := Kind.readString_number htakes a ""
  obtain ⟨-, -, htrim, -⟩ := (Kind.isEmptyValue_of_readValue rfl hread).1 hempty
  exact Bool.noConfusion (htrim.symm.trans htakes.keeps.trim)

/-- A text is written when the facets of every type hold of it. -/
def writeText (field : Field) (path text : String) : Except Violation Json :=
  field.facets.checkValue (.string text) path >>= fun _ => .ok (.string text)

/-- Of a number only the text is judged and written. -/
theorem checkPresent_number (hstring : field.type = .builtin .string)
    (htakes : field.facets.TakesNumbers) (a : Json.Number) (path : String) :
    field.checkPresent path (.number a) = field.writeText path (Kind.numberString a) := by
  have hgiven : field.isEmptyValue (.number a) = false := by
    rw [isEmptyValue_of_builtin hstring]
    rfl
  exact checkPresent_eq_checkValue hgiven (applyRule_number hstring htakes a path)
    (isEmptyValue_numberString hstring htakes a)

/-- A field of strings that coerces and asks nothing of the text of a number takes an integer for
its decimal digits.  Below `2 ^ 63` it takes the float of the same value for the same text; from
there on it takes the float for its shortest digits with an exponent, which are never the text of
the integer. -/
theorem checkPresent_equalNumbers (hstring : field.type = .builtin .string)
    (htakes : field.facets.TakesNumbers) {n : Int} (h : Json.InIntegerRange n) {x : Binary64}
    (hvalue : x.value = n) (path : String) :
    field.checkPresent path (.number (.integer n h)) = field.writeText path (toString n) ∧
      (n < 2 ^ 63 →
        field.checkPresent path (.number (.float x)) = field.writeText path (toString n)) ∧
      (2 ^ 63 ≤ n →
        let shortest := Binary64.shortestDigits .even x.units
        let text := String.ofList
          (Binary64.scientificText (Nat.toDigits 10 shortest.significand) shortest.exponent)
        18 ≤ shortest.exponent ∧ text ≠ toString n ∧
          field.checkPresent path (.number (.float x)) = field.writeText path text) := by
  refine ⟨?_, ?_, ?_⟩
  · rw [checkPresent_number hstring htakes, Kind.numberString_integer]
  · intro hhigh
    rw [checkPresent_number hstring htakes, Kind.numberString_float hvalue h.1 hhigh]
  · intro hlarge shortest text
    obtain ⟨hexponent, htext⟩ := Kind.numberString_large hvalue hlarge
    refine ⟨hexponent, ?_, ?_⟩
    · exact fun hsame => Kind.numberString_ne hvalue hlarge (htext.trans hsame)
    · rw [checkPresent_number hstring htakes, htext]

/-- The least signed 64-bit integer as a float. -/
def leastFloat : Binary64 := .ofInt (-2 ^ 63) (by decide)

/-- The first integer past the signed 64-bit ones as a float. -/
def pastFloat : Binary64 := .ofInt (2 ^ 63) (by decide)

theorem value_pastFloat : pastFloat.value = (2 ^ 63 : Int) :=
  Binary64.value_eq_intCast_iff.2 (by decide +kernel)

/-- A required serial number, one of two texts. -/
def serialField : Field :=
  ⟨.builtin .string,
    { coerce := true
      required := some ⟨true, none⟩
      allowed := some
        ⟨[.string "-9223372036854775808", .string "9223372036854775808"], some "unknown"⟩ }⟩

theorem checkPresent_equalNumbers_serial :
    serialField.facets.TakesNumbers ∧ leastFloat.value = (-2 ^ 63 : Int) ∧
      serialField.checkPresent "serial" (.number (.float leastFloat)) =
        .ok (.string "-9223372036854775808") ∧
      pastFloat.value = (2 ^ 63 : Int) ∧
      serialField.checkPresent "serial" (.number (.integer (2 ^ 63) (by decide))) =
        .ok (.string "9223372036854775808") ∧
      ∃ text ≠ "9223372036854775808",
        serialField.checkPresent "serial" (.number (.float pastFloat)) =
          serialField.writeText "serial" text := by
  have htakes : serialField.facets.TakesNumbers := ⟨rfl, ⟨rfl, rfl, rfl⟩, rfl, rfl⟩
  have hleast : leastFloat.value = (-2 ^ 63 : Int) :=
    Binary64.value_eq_intCast_iff.2 (by decide +kernel)
  obtain ⟨-, hfloat, -⟩ := checkPresent_equalNumbers rfl htakes (by decide) hleast "serial"
  obtain ⟨hinteger, -, hlarge⟩ :=
    checkPresent_equalNumbers rfl htakes (by decide) value_pastFloat "serial"
  obtain ⟨-, hne, htext⟩ := hlarge (Int.le_refl _)
  exact ⟨htakes, hleast, hfloat (by decide), value_pastFloat, hinteger, _, hne, htext⟩

/-- A field of strings without any facets but coercion. -/
def wordField : Field := ⟨.builtin .string, { coerce := true }⟩

/-- The integer `2 ^ 63` and the float of its value are written differently. -/
theorem exists_checkPresent_unequalTexts :
    ¬ ∀ (field : Field) (n : Int) (h : Json.InIntegerRange n) (x : Binary64) (path : String),
      field.type = .builtin .string → field.facets.TakesNumbers → x.value = n →
      field.checkPresent path (.number (.float x)) =
        field.checkPresent path (.number (.integer n h)) := by
  intro hclaim
  have htakes : wordField.facets.TakesNumbers := ⟨rfl, ⟨rfl, rfl, rfl⟩, rfl, rfl⟩
  have hsame := hclaim wordField _ (by decide) pastFloat "n" rfl htakes value_pastFloat
  rw [checkPresent_number rfl htakes, checkPresent_number rfl htakes,
    Kind.numberString_integer] at hsame
  -- Nothing is asked of either text, so both are written.
  have hwritten : Json.string (Kind.numberString (.float pastFloat)) =
      .string (toString (2 ^ 63 : Int)) := Except.ok.inj hsame
  exact Kind.numberString_ne value_pastFloat (Int.le_refl _) (Json.string.inj hwritten)

end Field

end Conform
