import Conform.Proofs.Emptiness
import Conform.Proofs.Timestamps

/-!
# Canonical dates

A date field that coerces writes the canonical form of what it read, cut off after the millisecond.
This file proves:

* `Field.checkPresent_canonicalDate`: what is written without bounds is accepted again and stays as
  it is, in years of four digits, and is refused in all others;
* `Field.applyRule_within`: the written instant is within the bounds, except that it may be the
  start of the millisecond of a bound from below.
-/

namespace Conform

/-! ## Values that denote dates -/

/-- Whatever denotes a date denotes a valid instant. -/
theorem Kind.isValid_of_instant? {coerce : Bool} {value : Json} {t : Instant}
    (h : instant? coerce value = some t) : t.IsValid := by
  cases value with
  | string text =>
      cases coerce with
      | true => exact Instant.isValid_of_read? h
      | false => exact Instant.isValid_of_readStrict? h
  | number n =>
      cases coerce with
      | true => exact Instant.isValid_of_ofMillis? h
      | false => cases h
  | null | bool _ | array _ | object _ => cases h

/-- A bound on dates from below holds of the instants that are not before it. -/
theorem Kind.exists_of_notBefore {t : Instant} {bound : Bound} (hsort : bound.isDate = true)
    (h : notBefore t bound = true) : ∃ b, bound = .date b ∧ ¬ t < b := by
  cases bound with
  | date b => exact ⟨b, rfl, of_decide_eq_true h⟩
  | number x => exact Bool.noConfusion hsort

theorem Kind.exists_of_notAfter {t : Instant} {bound : Bound} (hsort : bound.isDate = true)
    (h : notAfter t bound = true) : ∃ b, bound = .date b ∧ ¬ b < t := by
  cases bound with
  | date b => exact ⟨b, rfl, of_decide_eq_true h⟩
  | number x => exact Bool.noConfusion hsort

/-! ## Fields of dates -/

namespace Field

variable {field : Field} {path : String} {value output : Json}

theorem isEmptyValue_write (hkind : field.type = .builtin .date) (t : Instant) :
    field.isEmptyValue (.string t.write) = false := by
  rw [isEmptyValue_of_builtin hkind]
  exact Instant.isEmpty_write t

/-- A date field that coerces writes the canonical form of every date within its bounds. -/
theorem applyRule_date (hkind : field.type = .builtin .date) (hcoerce : field.facets.coerce = true)
    (hgiven : field.isEmptyValue value = false) :
    field.applyRule value path = .ok output ↔
      ∃ t, Kind.instant? true value = some t ∧ output = .string t.write ∧
        (∀ c ∈ field.facets.min, Kind.notBefore t c.value = true) ∧
        ∀ c ∈ field.facets.max, Kind.notAfter t c.value = true := by
  rw [isEmptyValue_of_builtin hkind] at hgiven
  simp only [applyRule_of_builtin hkind, Kind.rule, hgiven, Kind.readValue]
  rw [if_neg Bool.false_ne_true, Kind.readDate_eq_ok, hcoerce]
  simp only [if_true]

/-- A value that denotes no date is refused. -/
theorem checkPresent_of_instant?_eq_none (hkind : field.type = .builtin .date)
    (hcoerce : field.facets.coerce = true) (hgiven : field.isEmptyValue value = false)
    (h : Kind.instant? true value = none) :
    field.checkPresent path value = .error (Kind.date.mistyped field.facets path value) := by
  have hdate : Kind.date.isEmptyValue value = false := by
    rwa [isEmptyValue_of_builtin hkind] at hgiven
  simp only [checkPresent, hgiven, Bool.and_false, applyRule_of_builtin hkind, Kind.rule, hdate,
    Kind.readValue, Kind.readDate, hcoerce, h]
  rfl

/-- The canonical form of a date passes a field without bounds, as it is, in a year of four digits;
in any other year it is refused. -/
theorem checkPresent_write (hkind : field.type = .builtin .date)
    (hcoerce : field.facets.coerce = true) (hmin : field.facets.min = none)
    (hmax : field.facets.max = none) {t : Instant} (ht : t.IsValid)
    (hchecks : field.facets.checkValue (.string t.write) path = .ok ()) :
    field.checkPresent path (.string t.write) =
      if t.HasPlainYear then .ok (.string t.write)
      else .error (Kind.date.mistyped field.facets path (.string t.write)) := by
  have hread : Kind.instant? true (.string t.write) =
      if t.HasPlainYear then some t.truncated else none := Instant.read?_write ht
  have hgiven := isEmptyValue_write hkind t
  split
  · next hplain =>
      rw [if_pos hplain] at hread
      refine checkPresent_eq_ok.2 ⟨fun _ => hgiven, ?_, fun _ => hchecks⟩
      rw [applyRule_date hkind hcoerce hgiven, hmin, hmax]
      refine ⟨t.truncated, hread, ?_, ?_, ?_⟩
      · rw [Instant.write_truncated]
      · rintro _ ⟨⟩
      · rintro _ ⟨⟩
  · next hsigned =>
      rw [if_neg hsigned] at hread
      exact checkPresent_of_instant?_eq_none hkind hcoerce hgiven hread

/-! ## Writing twice -/

/-- Every date is written in a form that is read back to the millisecond in years of four digits,
and not at all in other years.  So a field without bounds accepts what it has written for a value
and writes the same again, in years of four digits, and refuses it as no date in other years. -/
theorem checkPresent_canonicalDate (hkind : field.type = .builtin .date)
    (hcoerce : field.facets.coerce = true) (hmin : field.facets.min = none)
    (hmax : field.facets.max = none) :
    (∀ value t, Kind.instant? true value = some t →
      Instant.read? t.write = if t.HasPlainYear then some t.truncated else none) ∧
    ∀ path value output, field.checkPresent path value = .ok output →
      (field.isEmptyValue value = true → output = value) ∧
      (field.isEmptyValue value = false → ∃ t, Kind.instant? true value = some t ∧
        output = .string t.write ∧
        field.checkPresent path output =
          if t.HasPlainYear then .ok output
          else .error (Kind.date.mistyped field.facets path output)) := by
  constructor
  · intro value t h
    exact Instant.read?_write (Kind.isValid_of_instant? h)
  · intro path value output h
    obtain ⟨-, hrule, hchecks⟩ := checkPresent_eq_ok.1 h
    constructor
    · intro hempty
      rw [isEmptyValue_of_builtin hkind] at hempty
      rw [applyRule_of_builtin hkind] at hrule
      rcases Kind.rule_eq_ok.1 hrule with ⟨-, -, hsame⟩ | ⟨hgiven, -⟩
      · exact hsame
      · exact absurd (hempty.symm.trans hgiven) (by decide)
    · intro hgiven
      obtain ⟨t, hinstant, rfl, -⟩ := (applyRule_date hkind hcoerce hgiven).1 hrule
      exact ⟨t, hinstant, rfl, checkPresent_write hkind hcoerce hmin hmax
        (Kind.isValid_of_instant? hinstant) (hchecks (isEmptyValue_write hkind t))⟩

/-- A day without any facets but coercion. -/
def dayField : Field := ⟨.builtin .date, { coerce := true }⟩

theorem checkPresent_dayField {t : Instant} (hgiven : dayField.isEmptyValue value = false)
    (h : Kind.instant? true value = some t) :
    dayField.checkPresent path value = .ok (.string t.write) := by
  refine checkPresent_eq_ok.2 ⟨fun _ => hgiven, ?_, fun _ => rfl⟩
  refine (applyRule_date rfl rfl hgiven).2 ⟨t, h, rfl, ?_, ?_⟩
  · rintro _ ⟨⟩
  · rintro _ ⟨⟩

/-- A leap second at an offset, with blanks around it and more places than are written. -/
theorem checkPresent_canonicalDate_leap :
    dayField.type = .builtin .date ∧ dayField.facets.coerce = true ∧
      dayField.facets.min = none ∧ dayField.facets.max = none ∧
      dayField.checkPresent "d" (.string " 2017-01-01T00:59:60.1239+01:00 ") =
        .ok (.string "2016-12-31T23:59:60.123Z") ∧
      dayField.checkPresent "d" (.string "2016-12-31T23:59:60.123Z") =
        .ok (.string "2016-12-31T23:59:60.123Z") := by
  have hinstant : Kind.instant? true (.string " 2017-01-01T00:59:60.1239+01:00 ") =
      some ⟨1483228799, 1123900000⟩ := by decide +kernel
  have hplain : (Instant.mk 1483228799 1123900000).HasPlainYear := by decide +kernel
  have hwrite : (Instant.mk 1483228799 1123900000).write = "2016-12-31T23:59:60.123Z" := by
    decide +kernel
  have hpasses : dayField.checkPresent "d" (.string " 2017-01-01T00:59:60.1239+01:00 ") =
      .ok (.string "2016-12-31T23:59:60.123Z") := by
    rw [← hwrite]
    exact checkPresent_dayField (by decide) hinstant
  obtain ⟨-, hagain⟩ := @checkPresent_canonicalDate dayField rfl rfl rfl rfl
  obtain ⟨t, ht, -, hsame⟩ := (hagain "d" _ _ hpasses).2 (by decide)
  cases Option.some.inj (hinstant.symm.trans ht)
  rw [if_pos hplain] at hsame
  exact ⟨rfl, rfl, rfl, rfl, hpasses, hsame⟩

/-- The first day of the year 10000 is written with a sign, and is refused in that form. -/
theorem exists_checkPresent_canonicalDate_refused :
    ¬ ∀ (field : Field) (path : String) (value output : Json),
      field.type = .builtin .date → field.facets = { coerce := true } →
      field.checkPresent path value = .ok output → field.checkPresent path output = .ok output := by
  intro hclaim
  have hinstant : Kind.instant? true (.number (.integer 253402300800000 (by decide))) =
      some ⟨253402300800, 0⟩ := by decide +kernel
  have hvalid := Kind.isValid_of_instant? hinstant
  have hsigned : ¬ (Instant.mk 253402300800 0).HasPlainYear := by decide +kernel
  have hagain := hclaim dayField "d" _ _ rfl rfl (checkPresent_dayField rfl hinstant)
  rw [checkPresent_write rfl rfl rfl rfl hvalid rfl, if_neg hsigned] at hagain
  cases hagain

/-! ## Bounds -/

/-- What the rule of a date field that coerces writes for a value that is not empty denotes one
instant, the start of the millisecond that was read.  That instant is not after a bound from above,
and it is before a bound from below only as the start of the millisecond of that bound. -/
theorem applyRule_within {options : Options} {registry : Registry}
    (hresolved : field.IsResolved options registry) (hkind : field.type = .builtin .date)
    (hcoerce : field.facets.coerce = true) (hgiven : field.isEmptyValue value = false)
    (h : field.applyRule value path = .ok output) :
    ∃ t u text, Kind.instant? true value = some t ∧ u = t.truncated ∧ output = .string text ∧
      u.IsNamedBy text ∧ (∀ v, v.IsNamedBy text → v = u) ∧
      (u.HasPlainYear → Instant.read? text = some u) ∧
      (∀ c ∈ field.facets.min, ∃ b, c.value = .date b ∧ (u < b → u = b.truncated)) ∧
      ∀ c ∈ field.facets.max, ∃ b, c.value = .date b ∧ ¬ b < u := by
  obtain ⟨t, hinstant, rfl, hmin, hmax⟩ := (applyRule_date hkind hcoerce hgiven).1 h
  have ht := Kind.isValid_of_instant? hinstant
  have hnamed := Instant.isNamedBy_write ht
  have hbounds : field.facets.HasBounds true := by
    have hbounds := hresolved.hasBounds
    rwa [hkind] at hbounds
  refine ⟨t, t.truncated, t.write, hinstant, rfl, rfl, hnamed, ?_, ?_, ?_, ?_⟩
  · intro v hv
    exact hnamed.unique hv
  · intro hplain
    exact (Instant.read?_write ht).trans (if_pos hplain)
  · intro c hc
    obtain ⟨b, hb, hnot⟩ := Kind.exists_of_notBefore (hbounds.min c hc) (hmin c hc)
    exact ⟨b, hb, Instant.truncated_eq_of_not_lt hnot⟩
  · intro c hc
    obtain ⟨b, hb, hnot⟩ := Kind.exists_of_notAfter (hbounds.max c hc) (hmax c hc)
    exact ⟨b, hb, fun hafter => hnot (Instant.lt_of_lt_truncated hafter)⟩

/-- A date on the leap day of 2020. -/
def leapDayField : Field :=
  ⟨.builtin .date,
    { coerce := true
      min := some ⟨.date ⟨1582934400, 0⟩, none⟩
      max := some ⟨.date ⟨1583020799, 999000000⟩, some "too late"⟩ }⟩

/-- The definition that states `leapDayField`. -/
def leapDayDefinition : FieldDefinition :=
  { type := .kind .date
    constraints := [("min", .string "2020-02-29"),
      ("max", .array [.string "2020-02-29T23:59:59.999Z", .string "too late"])] }

theorem applyRule_within_leapDay :
    leapDayField.IsResolved {} .builtin ∧ leapDayField.type = .builtin .date ∧
      leapDayField.facets.coerce = true ∧
      leapDayField.isEmptyValue (.string "2020-02-29 12:00:00.25") = false ∧
      leapDayField.applyRule (.string "2020-02-29 12:00:00.25") "d" =
        .ok (.string "2020-02-29T12:00:00.250Z") ∧
      ∃ u : Instant, u.IsNamedBy "2020-02-29T12:00:00.250Z" ∧
        (u < ⟨1582934400, 0⟩ → u = ⟨1582934400, 0⟩) ∧ ¬ ⟨1583020799, 999000000⟩ < u := by
  have hresolved : leapDayField.IsResolved {} .builtin :=
    @IsResolved.stated _ _ "d" leapDayDefinition _ rfl
  have hgiven : leapDayField.isEmptyValue (.string "2020-02-29 12:00:00.25") = false := by decide
  have hrule : leapDayField.applyRule (.string "2020-02-29 12:00:00.25") "d" =
      .ok (.string "2020-02-29T12:00:00.250Z") := by
    have hinstant : Kind.instant? true (.string "2020-02-29 12:00:00.25") =
        some ⟨1582977600, 250000000⟩ := by decide +kernel
    have hwrite : (Instant.mk 1582977600 250000000).write = "2020-02-29T12:00:00.250Z" := by
      decide +kernel
    refine (applyRule_date rfl rfl hgiven).2 ⟨_, hinstant, ?_, ?_, ?_⟩
    · rw [hwrite]
    · rintro _ ⟨⟩
      decide
    · rintro _ ⟨⟩
      decide
  obtain ⟨-, u, text, -, -, htext, hnamed, -, -, hmin, hmax⟩ :=
    applyRule_within hresolved rfl rfl hgiven hrule
  cases htext
  obtain ⟨b, ⟨⟩, hbefore⟩ := hmin _ rfl
  obtain ⟨b, ⟨⟩, hafter⟩ := hmax _ rfl
  exact ⟨hresolved, rfl, rfl, hgiven, hrule, u, hnamed, hbefore, hafter⟩

/-- A date from half a millisecond after the start of 2020 on. -/
def newYearField : Field :=
  ⟨.builtin .date, { coerce := true, min := some ⟨.date ⟨1577836800, 500000⟩, none⟩ }⟩

/-- The definition that states `newYearField`. -/
def newYearDefinition : FieldDefinition :=
  { type := .kind .date, constraints := [("min", .string "2020-01-01T00:00:00.0005Z")] }

/-- An instant after a bound from below is written as one before it, in the same millisecond. -/
theorem exists_applyRule_before_min :
    ¬ ∀ (options : Options) (registry : Registry) (field : Field) (path : String)
      (value output : Json), field.IsResolved options registry → field.type = .builtin .date →
      field.facets.coerce = true → field.isEmptyValue value = false →
      field.applyRule value path = .ok output →
      ∃ u text, output = .string text ∧ u.IsNamedBy text ∧
        ∀ c ∈ field.facets.min, ∀ b, c.value = .date b → ¬ u < b := by
  intro hclaim
  have hresolved : newYearField.IsResolved {} .builtin :=
    @IsResolved.stated _ _ "d" newYearDefinition _ rfl
  have hinstant : Kind.instant? true (.string "2020-01-01T00:00:00.0007Z") =
      some ⟨1577836800, 700000⟩ := by decide +kernel
  have hrule : newYearField.applyRule (.string "2020-01-01T00:00:00.0007Z") "d" =
      .ok (.string (Instant.mk 1577836800 700000).write) := by
    refine (applyRule_date rfl rfl (by decide)).2 ⟨_, hinstant, rfl, ?_, ?_⟩
    · rintro _ ⟨⟩
      decide
    · rintro _ ⟨⟩
  obtain ⟨u, text, htext, hnamed, hmin⟩ :=
    hclaim {} .builtin newYearField "d" _ _ hresolved rfl rfl (by decide) hrule
  cases htext
  have hu : u = ⟨1577836800, 0⟩ :=
    (Instant.isNamedBy_write (Kind.isValid_of_instant? hinstant)).unique hnamed
  refine hmin _ rfl _ rfl ?_
  rw [hu]
  decide

end Field

end Conform
