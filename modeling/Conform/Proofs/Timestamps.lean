import Conform.Date.Writer
import Conform.Proofs.Instants
import Conform.Proofs.Paths
import Conform.Proofs.Reshaping

/-!
# Written dates

What is written for an instant names its day and its time to the millisecond.  This file defines:

* `Day.text`, `TimeOfDay.text`: the two parts of what is written;
* `Instant.IsNamedBy`: being the instant that a canonical text denotes;

and proves:

* `Instant.read?_write`: what is written is read back to the millisecond in years of four digits,
  and is not read at all in other years;
* `Instant.IsNamedBy.unique`: a text denotes one instant, whatever its year.
-/

namespace Conform

namespace Instant

/-! ## Numbers of fixed width -/

theorem isDigit_padded {width n : Nat} {c : Char} (h : c ∈ padded width n) : c.isDigit := by
  rcases List.mem_append.1 h with hzero | hdigit
  · rw [List.eq_of_mem_replicate hzero]
    decide
  · exact isDigit_toDigits hdigit

theorem length_padded (width n : Nat) :
    (padded width n).length = max width (Nat.toDigits 10 n).length := by
  simp only [padded, List.length_append, List.length_replicate]
  omega

theorem length_padded_eq {width n : Nat} (hwidth : 0 < width) (hn : n < 10 ^ width) :
    (padded width n).length = width := by
  have hdigits : (Nat.toDigits 10 n).length ≤ width :=
    (Nat.length_toDigits_le_iff (by decide) hwidth).2 hn
  rw [length_padded, Nat.max_eq_left hdigits]

/-- Leading zeros do not change a number. -/
theorem ofDigitChars_padded (width n : Nat) : Nat.ofDigitChars 10 (padded width n) 0 = n := by
  rw [padded, Nat.ofDigitChars_append, Nat.ofDigitChars_replicate_zero]
  exact Nat.ofDigitChars_ten_toDigits

/-- Digits are read up to the width or up to the first character that is none. -/
theorem takeDigits_append {digits : List Char} {width : Nat} (rest : List Char)
    (hdigits : ∀ c ∈ digits, c.isDigit) (hwidth : digits.length ≤ width)
    (hend : digits.length = width ∨ ∀ c ∈ rest.head?, digit? c = none) (seen count : Nat) :
    takeDigits width (digits ++ rest) seen count =
      (Nat.ofDigitChars 10 digits seen, count + digits.length, rest) := by
  induction digits generalizing width seen count with
  | nil =>
      cases width with
      | zero => rfl
      | succ width =>
          cases rest with
          | nil => rfl
          | cons c rest =>
              have hnone : digit? c = none := by
                rcases hend with hfull | hnone
                · cases hfull
                · exact hnone c rfl
              simp [takeDigits, hnone]
  | cons c digits ih =>
      cases width with
      | zero => cases hwidth
      | succ width =>
          have hdigit := digit?_of_isDigit (hdigits c List.mem_cons_self)
          have hrest := ih (fun d hd => hdigits d (List.mem_cons_of_mem c hd))
            (Nat.le_of_succ_le_succ hwidth)
            (hend.imp_left fun hfull => Nat.succ.inj hfull)
            (seen * 10 + (c.toNat - '0'.toNat)) (count + 1)
          simp only [List.cons_append, takeDigits, hdigit, hrest, Nat.ofDigitChars_cons,
            List.length_cons, Nat.mul_comm 10 seen]
          congr 2
          omega

theorem readWidth?_append {digits : List Char} {least most : Nat} (rest : List Char)
    (hdigits : ∀ c ∈ digits, c.isDigit) (hleast : least ≤ digits.length)
    (hmost : digits.length ≤ most)
    (hend : digits.length = most ∨ ∀ c ∈ rest.head?, digit? c = none) :
    readWidth? least most (digits ++ rest) = some (Nat.ofDigitChars 10 digits 0, rest) := by
  simp only [readWidth?, takeDigits_append rest hdigits hmost hend 0 0, Nat.zero_add, if_pos hleast]

/-- A number of fixed width is read back, whatever follows it. -/
theorem readWidth?_padded {least width n : Nat} (hleast : least ≤ width) (hwidth : 0 < width)
    (hn : n < 10 ^ width) (rest : List Char) :
    readWidth? least width (padded width n ++ rest) = some (n, rest) := by
  have hlength := length_padded_eq hwidth hn
  have hread := readWidth?_append rest (fun c hc => isDigit_padded hc)
    (Nat.le_trans hleast (Nat.le_of_eq hlength.symm)) (Nat.le_of_eq hlength) (Or.inl hlength)
  rwa [ofDigitChars_padded] at hread

/-- Without a bound on its width a number is read back when no digit follows it. -/
theorem readWidth?_padded_unbounded {width n : Nat} (hwidth : 0 < width) {rest : List Char}
    (hend : ∀ c ∈ rest.head?, digit? c = none) :
    readWidth? 1 (padded width n ++ rest).length (padded width n ++ rest) = some (n, rest) := by
  have hleast : 1 ≤ (padded width n).length := by
    rw [length_padded]
    exact Nat.le_trans hwidth (Nat.le_max_left _ _)
  have hmost : (padded width n).length ≤ (padded width n ++ rest).length := by
    rw [List.length_append]
    exact Nat.le_add_right _ _
  have hread := readWidth?_append rest (fun c hc => isDigit_padded hc) hleast hmost (Or.inr hend)
  rwa [ofDigitChars_padded] at hread

/-- A number of fixed width starts with a digit. -/
theorem exists_padded_append (width n : Nat) (rest : List Char) :
    ∃ c text, padded width n ++ rest = c :: text ∧ c.isDigit = true := by
  cases hpadded : padded width n with
  | nil =>
      obtain ⟨-, hdigits⟩ := List.append_eq_nil_iff.1 hpadded
      exact absurd hdigits Nat.toDigits_ne_nil
  | cons c text =>
      exact ⟨c, text ++ rest, rfl, isDigit_padded (hpadded ▸ List.mem_cons_self)⟩

theorem trimStart_padded (width n : Nat) (rest : List Char) :
    trimStart (padded width n ++ rest) = padded width n ++ rest := by
  obtain ⟨c, text, htext, hdigit⟩ := exists_padded_append width n rest
  rw [htext]
  apply trimStart_eq_self
  rintro _ ⟨⟩
  exact isBlank_of_isDigit hdigit

theorem readField?_padded {n : Nat} (hn : n < 100) (rest : List Char) :
    readField? (padded 2 n ++ rest) = some (n, rest) := by
  rw [readField?, trimStart_padded]
  exact readWidth?_padded (by decide) (by decide) hn rest

/-! ## Years -/

theorem isBlank_head?_yearText (year : Int) (rest : List Char) :
    ∀ c ∈ (yearText year ++ rest).head?, isBlank c = false := by
  unfold yearText
  split
  · obtain ⟨c, text, htext, hdigit⟩ := exists_padded_append 4 year.toNat rest
    rw [htext]
    rintro _ ⟨⟩
    exact isBlank_of_isDigit hdigit
  · rintro _ ⟨⟩
    split <;> decide

/-- A year is read back, with its sign if it has one. -/
theorem readYear?_yearText (year : Int) (rest : List Char) :
    readYear? (yearText year ++ '-' :: rest) = some (year, '-' :: rest) := by
  unfold readYear?
  rw [trimStart_eq_self (isBlank_head?_yearText year _)]
  by_cases hplain : 0 ≤ year ∧ year ≤ 9999
  · obtain ⟨c, text, htext, hdigit⟩ := exists_padded_append 4 year.toNat ('-' :: rest)
    have hread : readWidth? 1 4 (padded 4 year.toNat ++ '-' :: rest) =
        some (year.toNat, '-' :: rest) :=
      readWidth?_padded (by decide) (by decide) (by omega) _
    rw [yearText, if_pos hplain]
    -- The first character is a digit, so there is no sign.
    split
    · next later hsign =>
        cases htext.symm.trans hsign
        exact absurd hdigit (by decide)
    · next later hsign =>
        cases htext.symm.trans hsign
        exact absurd hdigit (by decide)
    · simp only [hread, Option.map_some, Int.toNat_of_nonneg hplain.1]
  · have hread : readWidth? 1 (padded 4 year.natAbs ++ '-' :: rest).length
        (padded 4 year.natAbs ++ '-' :: rest) = some (year.natAbs, '-' :: rest) :=
      readWidth?_padded_unbounded (by decide) (by rintro _ ⟨⟩; decide)
    by_cases hnegative : year < 0
    · have hyear : -(year.natAbs : Int) = year := by omega
      simp only [yearText, if_neg hplain, if_pos hnegative, List.cons_append, hread,
        Option.map_some, hyear]
    · have hyear : (year.natAbs : Int) = year := by omega
      simp only [yearText, if_neg hplain, if_neg hnegative, List.cons_append, hread,
        Option.map_some, hyear]

end Instant

/-! ## The parts of what is written -/

/-- A day as it is written. -/
def Day.text (d : Day) : List Char :=
  Instant.yearText d.year ++ '-' :: (Instant.padded 2 d.month ++ '-' :: Instant.padded 2 d.day)

/-- A time of day to the millisecond as it is written. -/
def TimeOfDay.text (t : TimeOfDay) : List Char :=
  Instant.padded 2 t.hour ++ ':' :: (Instant.padded 2 t.minute ++ ':' ::
    (Instant.padded 2 t.second ++ '.' :: Instant.padded 3 (t.nanos / 10 ^ 6)))

/-- The fields of a time have two digits. -/
theorem TimeOfDay.fields_lt {t : TimeOfDay} (h : t.IsValid) :
    t.hour < 100 ∧ t.minute < 100 ∧ t.second < 100 ∧ t.nanos / 10 ^ 6 < 1000 := by
  simp only [IsValid] at h
  omega

namespace Instant

/-- What is written for an instant is its day, its time and the mark of universal time. -/
theorem writeChars_eq (t : Instant) :
    t.writeChars = t.day.text ++ 'T' :: (t.timeOfDay.text ++ ['Z']) := by
  simp only [writeChars, Day.text, TimeOfDay.text, day, timeOfDay, List.append_assoc,
    List.cons_append]

/-! ## Reading back -/

variable {d : Day} {t : TimeOfDay}

theorem readDate?_text (hd : d.IsValid) (rest : List Char) :
    readDate? (d.text ++ rest) = some (d, rest) := by
  simp only [readDate?, Day.text, List.append_assoc, List.cons_append, readYear?_yearText,
    readChar?, if_true, readField?_padded (Day.month_lt hd), readField?_padded (Day.day_lt hd),
    bind, Option.bind_some, pure]

theorem dropWhile_isDigit {rest : List Char} (hend : ∀ c ∈ rest.head?, digit? c = none) :
    rest.dropWhile Char.isDigit = rest := by
  cases rest with
  | nil => rfl
  | cons c rest =>
      have hnone : digit? c = none := hend c rfl
      cases hdigit : c.isDigit with
      | false => rw [List.dropWhile_cons, hdigit, if_neg Bool.false_ne_true]
      | true => cases hnone.symm.trans (digit?_of_isDigit hdigit)

/-- Three places of a second are read as milliseconds. -/
theorem readFraction?_padded {millis : Nat} (hmillis : millis < 1000) (rest : List Char)
    (hend : ∀ c ∈ rest.head?, digit? c = none) :
    readFraction? ('.' :: (padded 3 millis ++ rest)) = some (millis * 10 ^ 6, rest) := by
  have hlength : (padded 3 millis).length = 3 := length_padded_eq (by decide) hmillis
  have hwidth : (padded 3 millis).length ≤ 9 := Nat.le_trans (Nat.le_of_eq hlength) (by decide)
  have hread := takeDigits_append rest (fun c hc => isDigit_padded hc) hwidth (Or.inr hend) 0 0
  simp only [hlength, ofDigitChars_padded] at hread
  simp only [readFraction?, hread, dropWhile_isDigit hend]

theorem readChar?_self (c : Char) (rest : List Char) : readChar? c (c :: rest) = some rest :=
  if_pos rfl

/-- A day and a time with the mark of universal time are read back in a year of four digits. -/
theorem readTimestamp?_text (hd : d.IsValid) (hyear : 0 ≤ d.year ∧ d.year ≤ 9999)
    (ht : t.IsValid) :
    readTimestamp? (d.text ++ 'T' :: (t.text ++ ['Z'])) = some (ofLocal d t.truncated 0) := by
  obtain ⟨hhour, hminute, hsecond, hmillis⟩ := TimeOfDay.fields_lt ht
  have hwhole : d.year.toNat < 10 ^ 4 := by omega
  have hread : ∀ n rest, n < 10 ^ 2 → readWidth? 2 2 (padded 2 n ++ rest) = some (n, rest) :=
    fun n rest hn => readWidth?_padded (by decide) (by decide) hn rest
  simp only [Day.text, TimeOfDay.text, yearText, if_pos hyear, List.append_assoc, List.cons_append]
  refine Option.bind_eq_some_iff.2 ⟨_, readWidth?_padded (by decide) (by decide) hwhole _, ?_⟩
  refine Option.bind_eq_some_iff.2 ⟨_, readChar?_self '-' _, ?_⟩
  refine Option.bind_eq_some_iff.2 ⟨_, hread d.month _ (Day.month_lt hd), ?_⟩
  refine Option.bind_eq_some_iff.2 ⟨_, readChar?_self '-' _, ?_⟩
  refine Option.bind_eq_some_iff.2 ⟨_, hread d.day _ (Day.day_lt hd), ?_⟩
  -- The letter is one of the three separators.
  refine Eq.trans (if_pos (Or.inl rfl)) (Option.bind_eq_some_iff.2 ⟨_, rfl, ?_⟩)
  refine Option.bind_eq_some_iff.2 ⟨_, hread t.hour _ hhour, ?_⟩
  refine Option.bind_eq_some_iff.2 ⟨_, readChar?_self ':' _, ?_⟩
  refine Option.bind_eq_some_iff.2 ⟨_, hread t.minute _ hminute, ?_⟩
  refine Option.bind_eq_some_iff.2 ⟨_, readChar?_self ':' _, ?_⟩
  refine Option.bind_eq_some_iff.2 ⟨_, hread t.second _ hsecond, ?_⟩
  have hfraction := readFraction?_padded hmillis ['Z'] (by rintro _ ⟨⟩; decide)
  refine Option.bind_eq_some_iff.2 ⟨_, hfraction, ?_⟩
  refine Option.bind_eq_some_iff.2 ⟨(0, []), rfl, ?_⟩
  dsimp only
  rw [Int.toNat_of_nonneg hyear.1]
  exact finish?_eq_some.2 ⟨hd, ht.truncated, rfl, rfl⟩

/-- A day and a time without an offset are read as universal time, up to the end of the text. -/
theorem readDateTime?_text (hd : d.IsValid) (ht : t.IsValid) (rest : List Char)
    (hend : ∀ c ∈ rest.head?, digit? c = none) :
    readDateTime? (readChar? 'T') (d.text ++ 'T' :: (t.text ++ rest)) =
      finish? d t.truncated 0 rest := by
  obtain ⟨hhour, hminute, hsecond, hmillis⟩ := TimeOfDay.fields_lt ht
  simp only [readDateTime?, readDate?_text hd, TimeOfDay.text, List.append_assoc,
    List.cons_append, readChar?, if_true,
    readField?_padded hhour, readField?_padded hminute, readField?_padded hsecond,
    readFraction?_padded hmillis rest hend, bind, Option.bind_some]
  rfl

/-- A year that is written with a sign does not start a timestamp. -/
theorem readTimestamp?_of_signed (hyear : ¬ (0 ≤ d.year ∧ d.year ≤ 9999)) (rest : List Char) :
    readTimestamp? (d.text ++ rest) = none := by
  have hsign : digit? (if d.year < 0 then '-' else '+') = none := by split <;> decide
  have hread : readWidth? 4 4 (d.text ++ rest) = none := by
    simp [Day.text, yearText, hyear, readWidth?, takeDigits, hsign]
  rw [readTimestamp?, hread]
  rfl

theorem finish?_cons {offset : Int} (c : Char) (rest : List Char) :
    finish? d t offset (c :: rest) = none := by
  simp [finish?]

/-- A time behind the letter is not read as one behind blanks. -/
theorem readDateTime?_blank_text (hd : d.IsValid) (rest : List Char) :
    readDateTime? (fun rest => some (trimStart rest)) (d.text ++ 'T' :: rest) = none := by
  have htrim : trimStart ('T' :: rest) = 'T' :: rest :=
    trimStart_eq_self (by rintro _ ⟨⟩; decide)
  have hletter : digit? 'T' = none := by decide
  simp [readDateTime?, readDate?_text hd, htrim, readField?, readWidth?, takeDigits, hletter]

/-- A day with a time behind it is not read as a day. -/
theorem readDay?_text (hd : d.IsValid) (rest : List Char) :
    readDay? (d.text ++ 'T' :: rest) = none := by
  simp [readDay?, readDate?_text hd, finish?_cons]

/-! ## Instants -/

/-- What is written has no blanks around it. -/
theorem isTrimmed_writeChars (t : Instant) : IsTrimmed t.writeChars := by
  refine ⟨?_, ?_⟩
  · rw [writeChars_eq, Day.text, List.append_assoc]
    exact isBlank_head?_yearText t.day.year _
  · simp only [writeChars, List.getLast?_concat]
    rintro _ ⟨⟩
    decide

/-- What is written for an instant is read as the start of its millisecond in a year of four digits;
in other years it is not read at all. -/
theorem read?_write {t : Instant} (h : t.IsValid) :
    read? t.write = if t.HasPlainYear then some t.truncated else none := by
  have ht := isValid_timeOfDay h
  simp only [read?, write, String.toList_ofList, (isTrimmed_writeChars t).trimChars_eq]
  rw [writeChars_eq]
  split
  · next hplain =>
      rw [readTimestamp?_text h.day hplain ht, ofLocal_truncated h]
      rfl
  · next hsigned =>
      -- The mark of universal time is left over where no offset is asked for.
      have hdateTime : readDateTime? (readChar? 'T')
          (t.day.text ++ 'T' :: (t.timeOfDay.text ++ ['Z'])) = none :=
        calc
          _ = finish? t.day t.timeOfDay.truncated 0 ['Z'] :=
            readDateTime?_text h.day ht ['Z'] (by rintro _ ⟨⟩; decide)
          _ = none := finish?_cons 'Z' []
      rw [readTimestamp?_of_signed hsigned, hdateTime, readDateTime?_blank_text h.day,
        readDay?_text h.day]
      rfl

/-- Without the mark of universal time, what is written is read back in every supported year. -/
theorem readDateTime?_unmarked {t : Instant} (h : t.IsValid) :
    readDateTime? (readChar? 'T') (t.day.text ++ 'T' :: t.timeOfDay.text) = some t.truncated := by
  have ht := isValid_timeOfDay h
  have hread := readDateTime?_text h.day ht [] (by rintro _ ⟨⟩)
  rw [List.append_nil] at hread
  rw [hread]
  exact finish?_eq_some.2 ⟨h.day, ht.truncated, rfl, ofLocal_truncated h⟩

/-- Instants that are written alike are in the same millisecond. -/
theorem truncated_eq_of_write_eq {s t : Instant} (hs : s.IsValid) (ht : t.IsValid)
    (h : s.write = t.write) : s.truncated = t.truncated := by
  have hchars : s.writeChars = t.writeChars := String.ofList_injective h
  have hmarked : s.day.text ++ 'T' :: s.timeOfDay.text ++ ['Z'] =
      t.day.text ++ 'T' :: t.timeOfDay.text ++ ['Z'] := by
    simpa only [writeChars_eq, List.append_assoc, List.cons_append] using hchars
  have hunmarked : s.day.text ++ 'T' :: s.timeOfDay.text = t.day.text ++ 'T' :: t.timeOfDay.text :=
    List.append_cancel_right hmarked
  have hread := readDateTime?_unmarked hs
  rw [hunmarked, readDateTime?_unmarked ht] at hread
  exact (Option.some.inj hread).symm

/-- An instant and the start of its millisecond are written alike. -/
theorem write_truncated (t : Instant) : t.truncated.write = t.write := by
  have htext : t.truncated.timeOfDay.text = t.timeOfDay.text := by
    rw [timeOfDay_truncated]
    simp [TimeOfDay.text, TimeOfDay.truncated]
  simp only [write, writeChars_eq, htext, day_truncated]

/-- A text is the canonical form of an instant, which is at the start of its millisecond. -/
structure IsNamedBy (u : Instant) (text : String) : Prop where
  valid : u.IsValid
  whole : u.truncated = u
  text : u.write = text

theorem isNamedBy_write {t : Instant} (h : t.IsValid) : t.truncated.IsNamedBy t.write :=
  ⟨h.truncated, truncated_truncated t, write_truncated t⟩

/-- A text names one instant. -/
theorem IsNamedBy.unique {u v : Instant} {text : String} (hu : u.IsNamedBy text)
    (hv : v.IsNamedBy text) : v = u :=
  calc
    v = v.truncated := hv.whole.symm
    _ = u.truncated := truncated_eq_of_write_eq hv.valid hu.valid (hv.text.trans hu.text.symm)
    _ = u := hu.whole

end Instant

end Conform
