import Conform.Date.Reader
import Conform.Proofs.Calendar

/-!
# Instants by day and time

An instant falls on a day and at a time of day in universal time, and both together give it back.
This file defines:

* `Instant.day`, `Instant.timeOfDay`: the day and the time of an instant;
* `Instant.truncated`, `TimeOfDay.truncated`: both without what comes after the millisecond;
* `Instant.IsValid`: falling in a supported year, and beyond the second only where a minute ends;
* `Instant.HasPlainYear`: falling in a year of four digits;

and proves that whatever is read as a date is a valid instant.
-/

namespace Conform

namespace Instant

/-- The day of an instant in universal time. -/
def day (t : Instant) : Day := .ofNumber (t.seconds / 86400)

/-- The time of day of an instant in universal time. -/
def timeOfDay (t : Instant) : TimeOfDay :=
  let ofDay := (t.seconds % 86400).toNat
  ⟨ofDay / 3600, ofDay / 60 % 60, ofDay % 60 + t.nanos / 10 ^ 9, t.nanos % 10 ^ 9⟩

/-- The start of the millisecond of an instant. -/
def truncated (t : Instant) : Instant := ⟨t.seconds, t.nanos / 10 ^ 6 * 10 ^ 6⟩

end Instant

/-- A time of day with the fraction cut off after the millisecond. -/
def TimeOfDay.truncated (t : TimeOfDay) : TimeOfDay :=
  { t with nanos := t.nanos / 10 ^ 6 * 10 ^ 6 }

theorem TimeOfDay.IsValid.truncated {t : TimeOfDay} (h : t.IsValid) : t.truncated.IsValid := by
  obtain ⟨hhour, hminute, hsecond, hnanos⟩ := h
  exact ⟨hhour, hminute, hsecond, Nat.lt_of_le_of_lt (Nat.div_mul_le_self _ _) hnanos⟩

namespace Instant

/-- An instant of a supported year.  Its fraction goes on beyond one second only in a leap second,
which comes after the last second of a minute. -/
structure IsValid (t : Instant) : Prop where
  day : t.day.IsValid
  nanos : t.nanos < 2 * 10 ^ 9
  leap : 10 ^ 9 ≤ t.nanos → t.seconds % 60 = 59

/-- An instant of a year that is written with four digits and no sign. -/
def HasPlainYear (t : Instant) : Prop := 0 ≤ t.day.year ∧ t.day.year ≤ 9999

instance (t : Instant) : Decidable t.HasPlainYear := inferInstanceAs (Decidable (_ ∧ _))

/-! ## Order -/

theorem lt_iff {a b : Instant} :
    a < b ↔ a.seconds < b.seconds ∨ a.seconds = b.seconds ∧ a.nanos < b.nanos := Iff.rfl

/-- The start of the millisecond does not come after the instant. -/
theorem lt_of_lt_truncated {a b : Instant} (h : a < b.truncated) : a < b := by
  rw [lt_iff] at h ⊢
  simp only [truncated] at h
  omega

/-- An instant that is not before another is before it at the start of its millisecond only where
both are in the same millisecond. -/
theorem truncated_eq_of_not_lt {a b : Instant} (h : ¬ a < b) (hbefore : a.truncated < b) :
    a.truncated = b.truncated := by
  rw [lt_iff] at h hbefore
  simp only [truncated, Instant.mk.injEq] at hbefore ⊢
  omega

@[simp] theorem truncated_truncated (t : Instant) : t.truncated.truncated = t.truncated := by
  simp [truncated]

@[simp] theorem day_truncated (t : Instant) : t.truncated.day = t.day := rfl

theorem timeOfDay_truncated (t : Instant) : t.truncated.timeOfDay = t.timeOfDay.truncated := by
  simp only [timeOfDay, truncated, TimeOfDay.truncated]
  congr 1 <;> omega

theorem IsValid.truncated {t : Instant} (h : t.IsValid) : t.truncated.IsValid := by
  have hle : t.truncated.nanos ≤ t.nanos := Nat.div_mul_le_self _ _
  exact ⟨h.day, Nat.lt_of_le_of_lt hle h.nanos, fun hnanos => h.leap (Nat.le_trans hnanos hle)⟩

/-! ## Day and time together -/

theorem isValid_timeOfDay {t : Instant} (h : t.IsValid) : t.timeOfDay.IsValid := by
  have hnanos := h.nanos
  have hleap := h.leap
  simp only [timeOfDay, TimeOfDay.IsValid]
  omega

/-- An instant is that of its day and its time in universal time. -/
theorem ofLocal_timeOfDay {t : Instant} (h : t.IsValid) : ofLocal t.day t.timeOfDay 0 = t := by
  have hnanos := h.nanos
  have hleap := h.leap
  have hnumber : t.day.number = t.seconds / 86400 := Day.number_ofNumber _
  obtain ⟨seconds, nanos⟩ := t
  simp only [ofLocal, hnumber, timeOfDay]
  simp only at hnanos hleap
  -- The sixtieth second is written in leap seconds only.
  split
  · congr 1 <;> omega
  · congr 1 <;> omega

theorem ofLocal_truncated {t : Instant} (h : t.IsValid) :
    ofLocal t.day t.timeOfDay.truncated 0 = t.truncated := by
  rw [← timeOfDay_truncated]
  exact ofLocal_timeOfDay h.truncated

variable {d : Day} {t : TimeOfDay} {offset : Int}

/-- A time falls on a second of its day, and in a leap second on the last one of a minute. -/
theorem exists_ofLocal (d : Day) (ht : t.IsValid) (offset : Int) :
    ∃ second : Nat, second < 86400 ∧
      (ofLocal d t offset).seconds = d.number * 86400 + second - offset ∧
      (ofLocal d t offset).nanos < 2 * 10 ^ 9 ∧
      (10 ^ 9 ≤ (ofLocal d t offset).nanos → second % 60 = 59) := by
  simp only [TimeOfDay.IsValid] at ht
  refine ⟨t.hour * 3600 + t.minute * 60 + min t.second 59, ?_⟩
  unfold ofLocal
  split <;> simp only <;> omega

theorem day_ofLocal (hd : d.IsValid) (ht : t.IsValid) : (ofLocal d t 0).day = d := by
  obtain ⟨second, hless, hseconds, -⟩ := exists_ofLocal d ht 0
  have hnumber : (ofLocal d t 0).seconds / 86400 = d.number := by omega
  rw [day, hnumber, Day.ofNumber_number hd]

/-- Away from the ends of the supported years, an offset of less than a day leads to a day that is
supported as well. -/
theorem isValid_day_ofLocal (hd : d.IsValid) (ht : t.IsValid)
    (hyear : 0 ≤ d.year ∧ d.year ≤ 9999) (hoffset : -86400 < offset ∧ offset < 86400) :
    (ofLocal d t offset).day.IsValid := by
  obtain ⟨second, hless, hseconds, -⟩ := exists_ofLocal d ht offset
  obtain ⟨hstart, hend⟩ := Day.number_bounds hd
  have hfirst : yearStart 0 ≤ yearStart d.year := yearStart_mono hyear.1
  have hlast : yearStart (d.year + 1) ≤ yearStart 10000 := yearStart_mono (by omega)
  have hbefore : yearStart Day.firstYear < yearStart 0 := by decide
  have hafter : yearStart 10000 < yearStart (Day.lastYear + 1) := by decide
  apply Day.isValid_ofNumber_iff.2
  constructor
  · omega
  · omega

/-- A valid time at an offset in whole minutes is a valid instant when its day is supported. -/
theorem isValid_ofLocal (ht : t.IsValid) (hoffset : offset % 60 = 0)
    (hday : (ofLocal d t offset).day.IsValid) : (ofLocal d t offset).IsValid := by
  obtain ⟨second, hless, hseconds, hnanos, hleap⟩ := exists_ofLocal d ht offset
  refine ⟨hday, hnanos, ?_⟩
  intro hbeyond
  have hlast := hleap hbeyond
  omega

/-! ## What is read -/

theorem digit?_lt {c : Char} {digit : Nat} (h : digit? c = some digit) : digit < 10 := by
  unfold digit? at h
  split at h
  · next hrange =>
      have hlast : c.toNat ≤ '9'.toNat := Char.le_def.1 hrange.2
      cases h
      have hfirst : '9'.toNat = 57 := rfl
      have hzero : '0'.toNat = 48 := rfl
      omega
  · cases h

/-- Digits at the front of a text make a number below the power of ten of their width. -/
theorem takeDigits_lt {width : Nat} {text rest : List Char} {seen count n read : Nat}
    (h : takeDigits width text seen count = (n, read, rest)) : n < (seen + 1) * 10 ^ width := by
  induction width generalizing text seen count with
  | zero =>
      cases h
      simp
  | succ width ih =>
      have hgrow : seen + 1 ≤ (seen + 1) * 10 ^ (width + 1) :=
        Nat.le_mul_of_pos_right _ (Nat.pow_pos (by decide))
      cases text with
      | nil =>
          cases h
          exact hgrow
      | cons c text =>
          simp only [takeDigits] at h
          split at h
          · next digit hdigit =>
              have hless : digit < 10 := digit?_lt hdigit
              have hn := ih h
              have hnext : (seen * 10 + digit + 1) * 10 ^ width ≤ (seen + 1) * 10 * 10 ^ width :=
                Nat.mul_le_mul_right _ (by omega)
              rw [Nat.pow_succ', ← Nat.mul_assoc]
              exact Nat.lt_of_lt_of_le hn hnext
          · cases h
            exact hgrow

theorem readWidth?_lt {least most n : Nat} {text rest : List Char}
    (h : readWidth? least most text = some (n, rest)) : n < 10 ^ most := by
  unfold readWidth? at h
  split at h
  next m count left htake =>
    have hless := takeDigits_lt htake
    split at h
    · cases h
      simpa using hless
    · cases h

theorem bounds_of_fields {negative : Bool} {hours minutes : Nat} {text rest : List Char}
    (h : (if hours ≤ 23 ∧ minutes ≤ 59 then
      some (if negative then -((hours * 3600 + minutes * 60 : Nat) : Int)
        else (hours * 3600 + minutes * 60 : Nat), text) else none) = some (offset, rest)) :
    offset % 60 = 0 ∧ -86400 < offset ∧ offset < 86400 := by
  split at h
  · cases h
    split <;> omega
  · cases h

/-- An offset is a whole number of minutes, and less than a day. -/
theorem readOffset?_bounds {text rest : List Char} (h : readOffset? text = some (offset, rest)) :
    offset % 60 = 0 ∧ -86400 < offset ∧ offset < 86400 := by
  unfold readOffset? at h
  split at h
  · cases h
    decide
  · cases h
    decide
  · -- The fields are read in the same way after either sign.
    simp only [bind] at h
    split at h
    · simp only [Option.bind_eq_some_iff] at h
      obtain ⟨negative, -, ⟨hours, _⟩, -, _, -, ⟨minutes, _⟩, -, h⟩ := h
      exact bounds_of_fields h
    · split at h
      · simp only [Option.bind_eq_some_iff] at h
        obtain ⟨negative, -, ⟨hours, _⟩, -, _, -, ⟨minutes, _⟩, -, h⟩ := h
        exact bounds_of_fields h
      · cases h
  · cases h

theorem finish?_eq_some {u : Instant} {rest : List Char} :
    finish? d t offset rest = some u ↔
      d.IsValid ∧ t.IsValid ∧ rest = [] ∧ ofLocal d t offset = u := by
  unfold finish?
  split
  · next h => simp [h]
  · next h =>
      constructor
      · exact fun hnone => by cases hnone
      · rintro ⟨hd, ht, hrest, -⟩
        exact absurd ⟨hd, ht, hrest⟩ h

/-- A day and a time that end a text without an offset make a valid instant. -/
theorem isValid_of_finish? {u : Instant} {rest : List Char} (h : finish? d t 0 rest = some u) :
    u.IsValid := by
  obtain ⟨hd, ht, -, rfl⟩ := finish?_eq_some.1 h
  apply isValid_ofLocal ht rfl
  rwa [day_ofLocal hd ht]

theorem isValid_of_readTimestamp? {text : List Char} {u : Instant}
    (h : readTimestamp? text = some u) : u.IsValid := by
  simp only [readTimestamp?, bind, Option.bind_eq_some_iff] at h
  obtain ⟨⟨year, _⟩, hyear, _, -, ⟨month, _⟩, -, _, -, ⟨day, rest⟩, -, h⟩ := h
  have hplain : year < 10 ^ 4 := readWidth?_lt hyear
  cases rest with
  | nil => cases h
  | cons c rest =>
      dsimp only at h
      split at h
      · simp only [Option.bind_eq_some_iff] at h
        obtain ⟨_, -, ⟨hour, _⟩, -, _, -, ⟨minute, _⟩, -, _, -, ⟨second, _⟩, -, ⟨nanos, _⟩, -,
          ⟨offset, _⟩, hoffset, h⟩ := h
        obtain ⟨hd, ht, -, rfl⟩ := finish?_eq_some.1 h
        obtain ⟨hminutes, hless⟩ := readOffset?_bounds hoffset
        apply isValid_ofLocal ht hminutes
        exact isValid_day_ofLocal hd ht ⟨Int.natCast_nonneg year, by simp only; omega⟩ hless
      · cases h

theorem isValid_of_readDateTime? {separator? : List Char → Option (List Char)} {text : List Char}
    {u : Instant} (h : readDateTime? separator? text = some u) : u.IsValid := by
  simp only [readDateTime?, bind, Option.bind_eq_some_iff] at h
  obtain ⟨⟨d, _⟩, -, _, -, ⟨hour, _⟩, -, _, -, ⟨minute, _⟩, -, _, -, ⟨second, _⟩, -, ⟨nanos, _⟩, -,
    h⟩ := h
  exact isValid_of_finish? h

theorem isValid_of_readDay? {text : List Char} {u : Instant} (h : readDay? text = some u) :
    u.IsValid := by
  simp only [readDay?, bind, Option.bind_eq_some_iff] at h
  obtain ⟨⟨d, _⟩, -, h⟩ := h
  exact isValid_of_finish? h

/-- Whatever is read as a date is a valid instant. -/
theorem isValid_of_read? {text : String} {u : Instant} (h : read? text = some u) : u.IsValid := by
  simp only [read?, Option.orElse_eq_or, Option.orElse_eq_orElse, Option.or_eq_some_iff] at h
  rcases h with h | ⟨-, h | ⟨-, h | ⟨-, h⟩⟩⟩
  · exact isValid_of_readTimestamp? h
  · exact isValid_of_readDateTime? h
  · exact isValid_of_readDateTime? h
  · exact isValid_of_readDay? h

theorem isValid_of_readStrict? {text : String} {u : Instant} (h : readStrict? text = some u) :
    u.IsValid :=
  isValid_of_readTimestamp? h

theorem isValid_of_ofMillis? {x : Binary64} {u : Instant} (h : ofMillis? x = some u) :
    u.IsValid := by
  unfold ofMillis? at h
  split at h
  · next hrange =>
      obtain ⟨-, hfirst, hlast⟩ := hrange
      cases h
      have hstart : yearStart Day.firstYear = firstMillis / 86400000 + epochStart := by decide
      have hend : yearStart (Day.lastYear + 1) = lastMillis / 86400000 + epochStart + 1 := by decide
      refine ⟨Day.isValid_ofNumber_iff.2 ?_, ?_, ?_⟩ <;> simp only <;> omega
  · cases h

end Instant

end Conform
