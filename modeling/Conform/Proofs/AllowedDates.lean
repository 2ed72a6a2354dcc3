import Conform.Proofs.CanonicalDates
import Conform.Proofs.Precedence

/-!
# Allowed dates

A date field that coerces writes canonical dates, and compares them with canonical forms of the
dates that its definition allows.  This file defines:

* `Instant.SameMillisecond`: instants that differ after the millisecond at most;
* `ListsMillisecond`: documents of which one denotes the millisecond of an instant.

The main statement is `resolveField_allowedDates`: dates are allowed by their instants, whatever the
form in which a definition lists them and in whatever order it states its constraints.
-/

namespace Conform

/-! ## Instants -/

/-- Two instants are in the same second and the same millisecond of it.  A leap second lies beyond
the end of the second before it, so it is in no millisecond of the second after it. -/
def Instant.SameMillisecond (s t : Instant) : Prop :=
  s.seconds = t.seconds ∧ s.nanos / 10 ^ 6 = t.nanos / 10 ^ 6

theorem Instant.sameMillisecond_iff_truncated {s t : Instant} :
    s.SameMillisecond t ↔ s.truncated = t.truncated := by
  simp only [SameMillisecond, truncated, Instant.mk.injEq]
  omega

/-- Valid instants are written alike exactly when they are in the same millisecond. -/
theorem Instant.write_eq_iff {s t : Instant} (hs : s.IsValid) (ht : t.IsValid) :
    s.write = t.write ↔ s.SameMillisecond t := by
  rw [sameMillisecond_iff_truncated]
  constructor
  · exact truncated_eq_of_write_eq hs ht
  · intro h
    rw [← write_truncated s, h, write_truncated]

/-! ## Lists of dates -/

/-- A definition reads dates as a field that coerces does. -/
theorem definedInstant?_eq (json : Json) : definedInstant? json = Kind.instant? true json := by
  cases json <;> rfl

/-- One of the documents denotes a date in the millisecond of an instant. -/
def ListsMillisecond (values : List Json) (t : Instant) : Prop :=
  ∃ json ∈ values, ∃ s, definedInstant? json = some s ∧ s.SameMillisecond t

/-- A canonical date is found among canonical dates by its millisecond. -/
theorem isAllowed_canonicalDates {values : List Json}
    (hdates : ∀ json ∈ values, ∃ s, definedInstant? json = some s) {t : Instant} (ht : t.IsValid) :
    isAllowed (values.map canonicalDate) (.string t.write) = true ↔ ListsMillisecond values t := by
  -- Each listed date is compared as the text that is written for it.
  have hsame : ∀ json s, definedInstant? json = some s →
      ((canonicalDate json).same (.string t.write) = true ↔ s.SameMillisecond t) := by
    intro json s hs
    have hvalid : s.IsValid := Kind.isValid_of_instant? ((definedInstant?_eq json).symm.trans hs)
    rw [← Instant.write_eq_iff hvalid ht]
    simp only [canonicalDate, hs, Json.same, beq_iff_eq]
  simp only [isAllowed, List.any_map, List.any_eq_true, Function.comp_apply]
  constructor
  · rintro ⟨json, hmem, hmatch⟩
    obtain ⟨s, hs⟩ := hdates json hmem
    refine ⟨json, hmem, s, hs, (hsame json s hs).1 ?_⟩
    simpa only [canonicalDate, hs] using hmatch
  · rintro ⟨json, hmem, s, hs, hclose⟩
    refine ⟨json, hmem, ?_⟩
    simpa only [canonicalDate, hs] using (hsame json s hs).2 hclose

/-! ## What a definition allows -/

theorem eq_enum_of_ofText? {text : String} (h : ConstraintKey.ofText? text = some .allowed) :
    text = "enum" := by
  unfold ConstraintKey.ofText? at h
  split at h <;> first | rfl | cases h

/-- What is read of allowed values is what the constraint writes. -/
theorem Facets.Reads.allowed {dated : Bool} {form : Json} {listed : Clause (List Json)}
    {source : Facets} (h : Reads dated .allowed form source)
    (hlisted : readAllowed form = .ok listed) : source.allowed = some listed := by
  have hwritten : Facets.apply dated { coerce := false } .allowed form =
      .ok { coerce := false, allowed := some listed } := by
    rw [apply, hlisted]
    rfl
  exact (congrArg Facets.allowed (Except.ok.inj (hwritten.symm.trans (h _)))).symm

variable {options : Options} {registry : Registry} {place : String} {definition : FieldDefinition}
  {field : Field}

/-- A date field that coerces is allowed the canonical forms of what its definition lists. -/
theorem allowed_of_resolveField {form : Json} {listed : Clause (List Json)}
    (hresolved : (resolveField options registry place definition).result = .ok field)
    (hkeys : (definition.constraints.map (·.1)).Nodup)
    (hform : ("enum", form) ∈ definition.constraints) (hlisted : readAllowed form = .ok listed)
    (hdated : field.type.isDated = true) (hcoerce : field.facets.coerce = true) :
    field.facets.allowed = some ⟨listed.value.map canonicalDate, listed.message⟩ := by
  obtain ⟨before, rest, hsplit⟩ := List.append_of_mem hform
  have hlast : ∀ constraint ∈ rest, ConstraintKey.ofText? constraint.1 ≠ some .allowed := by
    intro constraint hmem hkey
    rw [hsplit, List.map_append, List.map_cons] at hkeys
    have hfresh := (List.nodup_cons.1 (List.nodup_append.1 hkeys).2.1).1
    exact hfresh (List.mem_map.2 ⟨constraint, hmem, eq_enum_of_ofText? hkey⟩)
  obtain ⟨-, facets, hfacets, hfinish⟩ := resolveField_eq_ok_iff.1 hresolved
  rw [hsplit] at hfacets
  obtain ⟨source, others, hreads, rfl⟩ := resolveConstraints_last rfl hlast hfacets
  have hallowed : (Facets.withPart others .allowed source).allowed = some listed :=
    hreads.allowed hlisted
  rw [hfinish, FieldDefinition.finish] at hcoerce ⊢
  -- Neither canonical dates nor what the definition states besides change whether it coerces.
  split at hcoerce
  · next hrewrites =>
      simp only [hrewrites, if_true, FieldDefinition.override, Facets.withCanonicalDates, hallowed,
        Option.map_some]
  · next hkeeps =>
      exact absurd (Bool.and_eq_true_iff.2 ⟨hdated, hcoerce⟩) hkeeps

/-! ## The check of allowed values -/

/-- A sequence that ends with a constant fails exactly where its first part does. -/
theorem bind_ok_eq_error {ε α β : Type} {x : Except ε α} {b : β} {e : ε} :
    (x >>= fun _ => .ok b) = .error e ↔ x = .error e := by
  cases x with
  | ok a => exact ⟨nofun, nofun⟩
  | error other =>
      constructor
      · rintro ⟨⟩
        rfl
      · rintro ⟨⟩
        rfl

theorem Facets.demand_finds {α : Type} {facets : Facets} {clause : Option (Clause α)}
    {fault other : Fault} (hfault : fault ≠ other) {holds : α → Bool} {fallback : α → String}
    {path : String} {value : Json} :
    Finds (fun violation => violation.fault ≠ other)
      (facets.demand fault clause holds fallback path value) := by
  unfold demand
  split
  · split
    · exact .ok ()
    · exact .error hfault
  · exact .ok ()

/-- The checks of every type refuse a value as not allowed exactly when values are listed and none
of them is the value. -/
theorem Facets.checkValue_enum_iff {facets : Facets} {value : Json} {path : String} :
    (∃ message, facets.checkValue value path = .error ⟨.enum, message, path, value⟩) ↔
      ∃ c ∈ facets.allowed, isAllowed c.value value = false := by
  constructor
  · rintro ⟨message, herror⟩
    by_contra hlisted
    have hallowed : ∀ c ∈ facets.allowed, isAllowed c.value value = true := by
      intro c hc
      by_contra hmissing
      exact hlisted ⟨c, hc, eq_false_of_ne_true hmissing⟩
    -- What comes behind the check of allowed values has faults of its own.
    have hothers : Finds (fun violation => violation.fault ≠ .enum)
        (facets.checkValue value path) := by
      refine Finds.bind ?_ fun _ =>
        Finds.bind (demand_finds (by decide)) fun _ => demand_finds (by decide)
      rw [(demand_eq_ok (u := ())).2 hallowed]
      exact .ok ()
    exact hothers _ herror rfl
  · rintro ⟨c, hc, hmissing⟩
    have hclause : facets.allowed = some c := hc
    refine ⟨facets.messageFor c.message
      ("Field \"" ++ path ++ "\" must be one of: " ++ listText c.value), ?_⟩
    simp only [checkValue, demand, hclause, hmissing]
    rfl

/-! ## Fields of dates -/

/-- What denotes a date is not empty. -/
theorem isEmpty_of_instant? {value : Json} {t : Instant} (h : Kind.instant? true value = some t) :
    value.isEmpty = false := by
  cases value with
  | string text =>
      by_contra hempty
      have hnone : Instant.read? "" = none := by decide
      obtain rfl : text = "" := by simpa [Json.isEmpty] using hempty
      cases hnone.symm.trans h
  | null | bool _ | number _ | array _ | object _ => first | rfl | cases h

/-- A date field that coerces takes a date for allowed exactly when one of the dates that its
definition lists is in the same millisecond, whatever their forms are. -/
theorem resolveField_allowedDates {form : Json} {listed : Clause (List Json)}
    (hresolved : (resolveField options registry place definition).result = .ok field)
    (hkeys : (definition.constraints.map (·.1)).Nodup)
    (hform : ("enum", form) ∈ definition.constraints) (hlisted : readAllowed form = .ok listed)
    (hdates : ∀ json ∈ listed.value, ∃ s, definedInstant? json = some s)
    (hkind : field.type = .builtin .date) (hcoerce : field.facets.coerce = true) {value : Json}
    {t : Instant} (hinstant : Kind.instant? true value = some t) :
    ∃ allowed, field.facets.allowed = some allowed ∧
      (isAllowed allowed.value (.string t.write) = true ↔ ListsMillisecond listed.value t) ∧
      ∀ path output, field.applyRule value path = .ok output → output = .string t.write ∧
        ((∃ message, field.checkPresent path value = .error ⟨.enum, message, path, output⟩) ↔
          ¬ ListsMillisecond listed.value t) := by
  have hdated : field.type.isDated = true := by
    rw [hkind]
    rfl
  have hallowed := allowed_of_resolveField hresolved hkeys hform hlisted hdated hcoerce
  have hmatch := isAllowed_canonicalDates hdates (Kind.isValid_of_instant? hinstant)
  refine ⟨_, hallowed, hmatch, ?_⟩
  intro path output hrule
  have hgiven : field.isEmptyValue value = false := by
    rw [Field.isEmptyValue_of_builtin hkind]
    exact isEmpty_of_instant? hinstant
  obtain ⟨u, hu, rfl, -⟩ := (Field.applyRule_date hkind hcoerce hgiven).1 hrule
  obtain rfl : t = u := Option.some.inj (hinstant.symm.trans hu)
  refine ⟨rfl, ?_⟩
  rw [Field.checkPresent_eq_checkValue hgiven hrule (Field.isEmptyValue_write hkind t), ← hmatch]
  simp only [bind_ok_eq_error, Facets.checkValue_enum_iff, hallowed, Option.mem_some_iff,
    exists_eq_left']
  exact Bool.eq_false_iff

/-- A leap second at an offset and a day, with a message. -/
def markedDates : Clause (List Json) :=
  ⟨[.string " 2017-01-01T00:59:60.1239+01:00 ", .string "2020-02-29"], some "not marked"⟩

/-- A date with allowed values, which is told to coerce only behind them. -/
def markedDefinition : FieldDefinition :=
  { type := .kind .date
    constraints := [("enum", .array [.array markedDates.value, .string "not marked"]),
      ("coerce", .bool true)] }

/-- The field that `markedDefinition` states. -/
def markedField : Field :=
  ⟨.builtin .date,
    { coerce := true
      allowed := some
        ⟨[.string "2016-12-31T23:59:60.123Z", .string "2020-02-29T00:00:00.000Z"],
          some "not marked"⟩ }⟩

/-- The leap second is allowed in another form, and the second after it is not. -/
theorem resolveField_allowedDates_marked :
    (resolveField .validateOnly .builtin "d" markedDefinition).result = .ok markedField ∧
      (∀ json ∈ markedDates.value, ∃ s, definedInstant? json = some s) ∧
      Kind.instant? true (.string "2016-12-31 23:59:60.1234") = some ⟨1483228799, 1123400000⟩ ∧
      Kind.instant? true (.string "2017-01-01T00:00:00.123Z") = some ⟨1483228800, 123000000⟩ ∧
      isAllowed [.string "2016-12-31T23:59:60.123Z", .string "2020-02-29T00:00:00.000Z"]
        (.string (Instant.mk 1483228799 1123400000).write) = true ∧
      ∃ message, markedField.checkPresent "d" (.string "2017-01-01T00:00:00.123Z") =
        .error ⟨.enum, message, "d", .string (Instant.mk 1483228800 123000000).write⟩ := by
  have hresolved : (resolveField .validateOnly .builtin "d" markedDefinition).result =
      .ok markedField := rfl
  have hleap : definedInstant? (.string " 2017-01-01T00:59:60.1239+01:00 ") =
      some ⟨1483228799, 1123900000⟩ := by decide +kernel
  have hday : definedInstant? (.string "2020-02-29") = some ⟨1582934400, 0⟩ := by decide +kernel
  have hdates : ∀ json ∈ markedDates.value, ∃ s, definedInstant? json = some s := by
    rintro json (_ | ⟨_, _ | ⟨_, ⟨⟩⟩⟩)
    · exact ⟨_, hleap⟩
    · exact ⟨_, hday⟩
  have hallowed : Kind.instant? true (.string "2016-12-31 23:59:60.1234") =
      some ⟨1483228799, 1123400000⟩ := by decide +kernel
  have hafter : Kind.instant? true (.string "2017-01-01T00:00:00.123Z") =
      some ⟨1483228800, 123000000⟩ := by decide +kernel
  have hmissing : ¬ ListsMillisecond markedDates.value ⟨1483228800, 123000000⟩ := by
    rintro ⟨json, _ | ⟨_, _ | ⟨_, ⟨⟩⟩⟩, s, hs, hclose⟩
    · cases hleap.symm.trans hs
      exact absurd hclose.1 (by decide)
    · cases hday.symm.trans hs
      exact absurd hclose.1 (by decide)
  have hrule : markedField.applyRule (.string "2017-01-01T00:00:00.123Z") "d" =
      .ok (.string (Instant.mk 1483228800 123000000).write) := by
    refine (Field.applyRule_date rfl rfl (by decide)).2 ⟨_, hafter, rfl, ?_, ?_⟩
    · rintro _ ⟨⟩
    · rintro _ ⟨⟩
  obtain ⟨_, ⟨⟩, hmatch, -⟩ := resolveField_allowedDates hresolved (by decide) List.mem_cons_self
    rfl hdates rfl rfl hallowed
  obtain ⟨_, ⟨⟩, -, hchecks⟩ := resolveField_allowedDates hresolved (by decide) List.mem_cons_self
    rfl hdates rfl rfl hafter
  exact ⟨hresolved, hdates, hallowed, hafter,
    hmatch.2 ⟨_, List.mem_cons_self, _, hleap, rfl, rfl⟩, (hchecks "d" _ hrule).2.2 hmissing⟩

end Conform
