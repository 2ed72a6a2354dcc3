import Conform.Proofs.Acceptance

/-!
# Values that pass unchanged

What a field writes meets everything that the field declares.  The other way round, a value that
already has the form of the field's kind and meets everything that the field declares needs no
coercion, and so a field that asks for no other form of texts writes it as it is.  This file
defines:

* `Facets.KeepsText`: facets that ask for no other form of a text.

The main statement is `Field.check_unchanged`.  Dates are left out: a coercing field writes the
canonical form of the instant, which need not be the text that was given.
-/

namespace Conform

/-- A field asks for no other form of a text: neither blanks nor case are touched. -/
structure Facets.KeepsText (facets : Facets) : Prop where
  trim : facets.trim = false
  lowercase : facets.lowercase = false
  uppercase : facets.uppercase = false

/-! ## Kinds -/

namespace Kind

variable {kind : Kind} {facets : Facets} {value : Json}

theorem reshape_eq_self (h : facets.KeepsText) (text : String) : reshape facets text = text := by
  simp [reshape, h.trim, h.lowercase, h.uppercase]

theorem readString_of_metBy (hkeeps : facets.KeepsText) (h : facets.MetBy string value)
    (path : String) : readString facets value path = .ok value := by
  obtain ⟨text, rfl⟩ := h.form
  obtain ⟨hmin, hmax⟩ := h.length rfl text rfl
  have hform : reshape facets text = text := reshape_eq_self hkeeps text
  -- A string is its own text, whether or not the field coerces.
  refine readString_eq_ok.2 ⟨text, rfl, ?_, ?_, ?_⟩
  · rw [hform]
  · rwa [hform]
  · rwa [hform]

theorem exists_number_of_hasForm (hnumeric : kind.isNumeric = true) (h : kind.HasForm value) :
    ∃ n, value = .number n := by
  cases kind with
  | number | int32 | decimal128 | double => exact h
  | string | boolean | date | object | array => exact Bool.noConfusion hnumeric

/-- A number is finite and keeps its form, so only its range and its bounds are left to check. -/
theorem readNumber_of_metBy (hnumeric : kind.isNumeric = true) (h : facets.MetBy kind value)
    (path : String) : kind.readNumber facets value path = .ok value := by
  obtain ⟨n, rfl⟩ := exists_number_of_hasForm hnumeric h.form
  obtain ⟨hmin, hmax⟩ := h.range hnumeric n rfl
  refine readNumber_eq_ok.2 ⟨n.toBinary64, true, rfl, checkNumber_eq_ok.2 ⟨rfl, ?_, ?_, ?_⟩⟩
  · rintro rfl
    obtain ⟨hintegral, hlow, hhigh⟩ := h.whole rfl n rfl
    exact ⟨hintegral, decide_eq_true ⟨hlow, Int.lt_of_le_sub_one hhigh⟩⟩
  · intro c hc
    obtain ⟨bound, hbound, hle⟩ := hmin c hc
    rw [hbound]
    exact decide_eq_true hle
  · intro c hc
    obtain ⟨bound, hbound, hle⟩ := hmax c hc
    rw [hbound]
    exact decide_eq_true hle

/-- A value that meets what is declared is read as it is. -/
theorem readValue_of_metBy (hdate : kind ≠ date) (hkeeps : facets.KeepsText)
    (h : facets.MetBy kind value) (path : String) :
    kind.readValue facets value path = .ok value := by
  cases kind with
  | string => exact readString_of_metBy hkeeps h path
  | boolean =>
      obtain ⟨b, rfl⟩ := h.form
      rfl
  | number | int32 | decimal128 | double => exact readNumber_of_metBy rfl h path
  | date => exact absurd rfl hdate
  | object =>
      obtain ⟨members, rfl⟩ := h.form
      rfl
  | array =>
      obtain ⟨items, rfl⟩ := h.form
      rfl

end Kind

/-! ## Fields -/

namespace Field

variable {field : Field} {kind : Kind} {value : Json}

theorem checkPresent_of_metBy (hkind : field.type = .builtin kind) (hdate : kind ≠ .date)
    (hkeeps : field.facets.KeepsText) (hempty : field.isEmptyValue value = false)
    (h : field.facets.MetBy kind value) (path : String) :
    field.checkPresent path value = .ok value := by
  have hread : kind.readValue field.facets value path = .ok value :=
    Kind.readValue_of_metBy hdate hkeeps h path
  have hrule : field.applyRule value path = .ok value := by
    rw [applyRule_of_builtin hkind]
    rw [isEmptyValue_of_builtin hkind] at hempty
    exact Kind.rule_eq_ok.2 (Or.inr ⟨hempty, hread⟩)
  exact checkPresent_eq_ok.2 ⟨fun _ => hempty, hrule,
    fun _ => Facets.checkValue_eq_ok.2 ⟨h.allowed, h.pattern, h.check⟩⟩

/-- A value that is not empty is accepted and written as it is, in the same form, when it meets
everything that its field declares; and where bounds are of the sort of the field's type, as
resolution leaves them, no other value is. -/
theorem check_unchanged (hkind : field.type = .builtin kind) (hdate : kind ≠ .date)
    (hkeeps : field.facets.KeepsText) (hempty : field.isEmptyValue value = false) (tolerant : Bool)
    (path : String) (draws : Draws) :
    (field.facets.MetBy kind value →
        (field.check tolerant path (some value)).outcome draws = (.ok [(path, value)], draws)) ∧
      (field.facets.HasBounds field.type.isDated →
        (field.check tolerant path (some value)).outcome draws = (.ok [(path, value)], draws) →
          field.facets.MetBy kind value) := by
  constructor
  · intro h
    have hpresent := checkPresent_of_metBy hkind hdate hkeeps hempty h path
    exact check_some_eq_ok.2 ⟨value, hpresent, rfl, rfl⟩
  · intro hbounds h
    obtain ⟨output, hpresent, hentries, -⟩ := check_some_eq_ok.1 h
    cases hentries
    exact metBy_of_checkPresent hkind hbounds hpresent hempty

end Field

/-- The number 2 in the form of a float. -/
def floatTwo : Json.Number := .float (Binary64.ofInt 2 (by decide))

/-- A required level of 2 to 4, listed as integers, in a field that does not coerce. -/
def levelField : Field :=
  ⟨.builtin .int32,
    { coerce := false
      required := some ⟨true, none⟩
      min := some ⟨.number (Binary64.ofInt 2 (by decide)), none⟩
      max := some ⟨.number (Binary64.ofInt 4 (by decide)), none⟩
      allowed := some
        ⟨[.number (.integer 2 (by decide)), .number (.integer 4 (by decide))], none⟩ }⟩

/-- The level stays a float, although the integer of its value is what is listed. -/
theorem Field.check_unchanged_level :
    levelField.facets.MetBy .int32 (.number floatTwo) ∧
      ∀ draws, (levelField.check false "level" (some (.number floatTwo))).outcome draws =
        (.ok [("level", .number floatTwo)], draws) := by
  have hmet : levelField.facets.MetBy .int32 (.number floatTwo) := by
    refine ⟨⟨floatTwo, rfl⟩, nofun, ?_, ?_, ?_, nofun, nofun⟩
    · rintro - n ⟨⟩
      refine ⟨?_, ?_⟩
      · rintro c ⟨⟩
        exact ⟨_, rfl, by decide +kernel⟩
      · rintro c ⟨⟩
        exact ⟨_, rfl, by decide +kernel⟩
    · rintro - n ⟨⟩
      decide +kernel
    · rintro c ⟨⟩
      decide +kernel
  exact ⟨hmet, fun draws =>
    (Field.check_unchanged rfl (by decide) ⟨rfl, rfl, rfl⟩ rfl false "level" draws).1 hmet⟩

end Conform
