import Conform.Proofs.Acceptance
import Mathlib.Data.List.TakeWhile

/-!
# What is empty after reading

Whether a value is missing is decided on the value as given, but what is written is the value as
read.  This file defines:

* `HasInk`: a text that does not consist of blanks alone, such as that of any number;

and proves which transformations of texts can leave nothing over, trimming of blanks alone and the
two cases of nothing, and so when a required field that was given is written as an empty value.
-/

namespace Conform

/-! ## Trimming and case -/

/-- Trimming leaves nothing over of blanks alone. -/
theorem trim_eq_empty_iff {text : String} :
    trim text = "" ↔ ∀ c ∈ text.toList, isBlank c = true := by
  have hstart : ∀ chars : List Char, trimStart chars = [] ↔ ∀ c ∈ chars, isBlank c = true :=
    fun chars => List.dropWhile_eq_nil_iff
  have hempty : trim text = "" ↔ trimStart (trimStart text.toList).reverse = [] := by
    simp [trim, trimChars]
  rw [hempty, hstart]
  constructor
  · intro h
    rw [← hstart]
    -- The first character that is left by the first pass would not be blank.
    by_contra hne
    have hhead := List.head_dropWhile_not isBlank hne
    have hblank := h _ (List.mem_reverse.2 (List.head_mem hne))
    exact absurd (hblank.symm.trans hhead) (by decide)
  · intro h c hc
    have hnil : trimStart text.toList = [] := (hstart _).2 h
    rw [hnil] at hc
    exact absurd hc List.not_mem_nil

theorem lowerChar_ne_nil (c : Char) : lowerChar c ≠ [] := by
  unfold lowerChar
  split
  · exact List.cons_ne_nil _ _
  · split
    · exact List.cons_ne_nil _ _
    · split <;> exact List.cons_ne_nil _ _

/-- The lower case of a text is empty only when the text is. -/
theorem toLower_eq_empty_iff {text : String} : toLower text = "" ↔ text = "" := by
  -- What stands before a letter may change its image, but not take it away.
  have hchars : ∀ before chars, lowerFrom before chars = [] ↔ chars = [] := by
    intro before chars
    cases chars with
    | nil => simp [lowerFrom]
    | cons c rest =>
        simp only [lowerFrom, List.append_eq_nil_iff, reduceCtorEq, iff_false, not_and]
        intro himage
        split at himage
        · exact absurd himage (List.cons_ne_nil _ _)
        · exact absurd himage (lowerChar_ne_nil c)
  have hempty : toLower text = "" ↔ lowerFrom [] text.toList = [] := by simp [toLower]
  rw [hempty, hchars, String.toList_eq_nil_iff]

theorem upperExpansions_ne_nil {n : Nat} {image : List Nat}
    (h : CaseTable.upperExpansions.lookup n = some image) : image ≠ [] := by
  have hall : ∀ entry ∈ CaseTable.upperExpansions, entry.2 ≠ [] := by decide
  rcases List.lookup_eq_some_iff.1 h with ⟨before, after, hsplit, -⟩
  apply hall (n, image)
  rw [hsplit]
  exact List.mem_append_right before List.mem_cons_self

theorem upperChar_ne_nil (c : Char) : upperChar c ≠ [] := by
  unfold upperChar
  split
  · exact List.cons_ne_nil _ _
  · split
    · next image himage => simpa using upperExpansions_ne_nil himage
    · split <;> exact List.cons_ne_nil _ _

theorem toUpper_eq_empty_iff {text : String} : toUpper text = "" ↔ text = "" := by
  have hempty : toUpper text = "" ↔ text.toList.flatMap upperChar = [] := by simp [toUpper]
  rw [hempty, ← String.toList_eq_nil_iff]
  cases text.toList with
  | nil => simp
  | cons c rest => simp [upperChar_ne_nil]

/-! ## Written numbers -/

theorem isBlank_of_isDigit {c : Char} (h : c.isDigit = true) : isBlank c = false := by
  have hrange : 48 ≤ c.toNat ∧ c.toNat ≤ 57 := Char.isDigit_iff_toNat.1 h
  simp only [isBlank, Bool.or_eq_false_iff, Bool.and_eq_false_iff, decide_eq_false_iff_not,
    beq_eq_false_iff_ne]
  omega

/-- Some character of a text is not blank. -/
def HasInk (text : List Char) : Prop := ∃ c ∈ text, isBlank c = false

namespace HasInk

theorem head {c : Char} (h : isBlank c = false) (rest : List Char) : HasInk (c :: rest) :=
  ⟨c, List.mem_cons_self, h⟩

theorem append_left {first : List Char} (h : HasInk first) (second : List Char) :
    HasInk (first ++ second) := by
  rcases h with ⟨c, hc, hink⟩
  exact ⟨c, List.mem_append_left second hc, hink⟩

theorem append_right {second : List Char} (h : HasInk second) (first : List Char) :
    HasInk (first ++ second) := by
  rcases h with ⟨c, hc, hink⟩
  exact ⟨c, List.mem_append_right first hc, hink⟩

theorem cons {rest : List Char} (h : HasInk rest) (c : Char) : HasInk (c :: rest) :=
  h.append_right [c]

theorem toDigits (n : Nat) : HasInk (Nat.toDigits 10 n) := by
  cases hdigits : Nat.toDigits 10 n with
  | nil => exact absurd hdigits Nat.toDigits_ne_nil
  | cons c rest =>
      have hc : c ∈ Nat.toDigits 10 n := hdigits ▸ List.mem_cons_self
      exact head (isBlank_of_isDigit (isDigit_toDigits hc)) rest

/-- The first digit stays wherever the point is set. -/
theorem positional (whole : List Char) (n : Nat) (exponent : Int) :
    HasInk (Binary64.positional whole (Nat.toDigits 10 n) exponent) := by
  unfold Binary64.positional
  split
  · exact head (by decide) _
  · simp only
    split
    · exact ((toDigits n).append_left _).append_left _
    · -- At least one digit stands before the point.
      apply append_left
      cases hdigits : Nat.toDigits 10 n with
      | nil => exact absurd hdigits Nat.toDigits_ne_nil
      | cons c rest =>
          have hc : c ∈ Nat.toDigits 10 n := hdigits ▸ List.mem_cons_self
          exact head (isBlank_of_isDigit (isDigit_toDigits hc)) _

theorem scientificText (digits : List Char) (exponent : Int) :
    HasInk (Binary64.scientificText digits exponent) :=
  (toDigits exponent.natAbs).append_right _

theorem text (layout : Binary64.NumberLayout) (x : Binary64) : HasInk (x.text layout) := by
  -- A sign in front changes nothing, so the body alone has to have ink.
  have hbody : HasInk (if x.units = 0 then '0' :: (if layout.wholePoint then ['.', '0'] else [])
      else
        let shortest := Binary64.shortestDigits layout.tie x.units
        let digits := Nat.toDigits 10 shortest.significand
        if layout.scientific shortest.exponent then
          Binary64.scientificText digits shortest.exponent
        else Binary64.positional (if layout.wholePoint then ['.', '0'] else []) digits
          shortest.exponent) := by
    split
    · exact head (by decide) _
    · simp only
      split
      · exact scientificText _ _
      · exact positional _ _ _
  unfold Binary64.text
  simp only
  split
  · exact hbody.cons '-'
  · exact hbody

end HasInk

/-- A number is never written in blanks alone. -/
theorem hasInk_numberText (n : Json.Number) : HasInk n.text := by
  cases n with
  | integer n inRange =>
      simp only [Json.Number.text, Json.Number.integerText]
      split
      · exact (HasInk.toDigits _).cons '-'
      · exact HasInk.toDigits _
  | float x => exact HasInk.text _ x

/-- A text with ink is not blank, and so not empty. -/
theorem HasInk.not_blank {chars : List Char} (h : HasInk chars) :
    ¬ ∀ c ∈ chars, isBlank c = true := by
  rcases h with ⟨c, hc, hink⟩
  intro hblank
  exact absurd ((hblank c hc).symm.trans hink) (by decide)

/-! ## Texts of string fields -/

/-- Only trimming can leave nothing over of a text. -/
theorem Kind.reshape_eq_empty_iff {facets : Facets} {text : String} :
    reshape facets text = "" ↔ text = "" ∨
      facets.coerce = true ∧ facets.trim = true ∧ ∀ c ∈ text.toList, isBlank c = true := by
  -- The cases come after trimming and change nothing about being empty.
  have hcases : ∀ trimmed : String,
      (let lowered := if facets.lowercase then toLower trimmed else trimmed
        if facets.uppercase then toUpper lowered else lowered) = "" ↔ trimmed = "" := by
    intro trimmed
    cases facets.lowercase <;> cases facets.uppercase <;>
      simp [toLower_eq_empty_iff, toUpper_eq_empty_iff]
  unfold reshape
  cases facets.coerce with
  | false => simp
  | true =>
      simp only [if_true]
      rw [hcases]
      cases facets.trim with
      | false => simp
      | true =>
          simp only [if_true, trim_eq_empty_iff, true_and]
          constructor
          · exact Or.inr
          · rintro (rfl | h)
            · exact fun c hc => absurd hc (by simp)
            · exact h

/-- A text that is not a string as given has ink. -/
theorem Kind.hasInk_of_stringOf? {coerce : Bool} {value : Json} {text : String}
    (h : stringOf? coerce value = some text) : value = .string text ∨ HasInk text.toList := by
  cases value with
  | string s =>
      cases h
      exact Or.inl rfl
  | number n =>
      right
      cases coerce with
      | false => exact absurd h (by simp [stringOf?])
      | true =>
          cases h
          cases n with
          | integer n inRange =>
              change HasInk (String.ofList (Json.Number.integer n inRange).text).toList
              rw [String.toList_ofList]
              exact hasInk_numberText _
          | float x =>
              simp only [numberString, String.toList_ofList]
              exact hasInk_numberText _
  | bool b =>
      right
      cases coerce with
      | false => exact absurd h (by simp [stringOf?])
      | true =>
          cases h
          cases b with
          | false => exact HasInk.head (by decide) _
          | true => exact HasInk.head (by decide) _
  | null | array _ | object _ => exact absurd h (by simp [stringOf?])

/-! ## Required fields -/

theorem Kind.isEmpty_string_iff {text : String} : (Json.string text).isEmpty = true ↔ text = "" :=
  String.isEmpty_iff

theorem Instant.isEmpty_write (t : Instant) : (Json.string t.write).isEmpty = false := by
  have hwritten : t.write ≠ "" := by simp [write, writeChars]
  exact Bool.eq_false_iff.2 fun hempty => hwritten (Kind.isEmpty_string_iff.1 hempty)

theorem Kind.isEmpty_of_readDate {facets : Facets} {value : Json} {path : String} {output : Json}
    (hgiven : value.isEmpty = false) (h : readDate facets value path = .ok output) :
    output.isEmpty = false := by
  rcases readDate_eq_ok.1 h with ⟨t, -, rfl, -⟩
  cases facets.coerce with
  | false => exact hgiven
  | true => exact t.isEmpty_write

/-- A string field writes an empty text only for a string of blanks that it trims away. -/
theorem Kind.isEmpty_of_readString {facets : Facets} {value : Json} {path : String} {output : Json}
    (hgiven : value.isEmpty = false) (h : readString facets value path = .ok output) :
    output.isEmpty = true ↔ facets.coerce = true ∧ facets.trim = true ∧
      ∃ text, value = .string text ∧ ∀ c ∈ text.toList, isBlank c = true := by
  rcases readString_eq_ok.1 h with ⟨text, htext, rfl, -⟩
  rw [isEmpty_string_iff, reshape_eq_empty_iff]
  rcases hasInk_of_stringOf? htext with rfl | hink
  · have hne : text ≠ "" := by
      intro hempty
      exact absurd (hgiven.symm.trans (isEmpty_string_iff.2 hempty)) (by decide)
    constructor
    · rintro (hempty | ⟨hcoerce, htrim, hblank⟩)
      · exact absurd hempty hne
      · exact ⟨hcoerce, htrim, text, rfl, hblank⟩
    · rintro ⟨hcoerce, htrim, _, ⟨⟩, hblank⟩
      exact Or.inr ⟨hcoerce, htrim, hblank⟩
  · -- A number or a boolean in words is never blank, so trimming leaves something over.
    constructor
    · rintro (rfl | ⟨-, -, hblank⟩)
      · exact absurd (fun c hc => absurd hc (by simp)) hink.not_blank
      · exact absurd hblank hink.not_blank
    · rintro ⟨-, -, given, rfl, hblank⟩
      -- A string as given is its own text.
      cases htext
      exact absurd hblank hink.not_blank

/-- What is read from a value that is not empty is itself not empty, except for a string of blanks
that is trimmed away. -/
theorem Kind.isEmptyValue_of_readValue {kind : Kind} {facets : Facets} {value : Json}
    {path : String} {output : Json} (hgiven : kind.isEmptyValue value = false)
    (h : kind.readValue facets value path = .ok output) :
    kind.isEmptyValue output = true ↔ kind = string ∧ facets.coerce = true ∧ facets.trim = true ∧
      ∃ text, value = .string text ∧ ∀ c ∈ text.toList, isBlank c = true := by
  have hform := hasForm_of_readValue h
  cases kind with
  | string => simpa [isEmptyValue] using isEmpty_of_readString hgiven h
  | date =>
      have hwritten : output.isEmpty = false := isEmpty_of_readDate hgiven h
      simp [isEmptyValue, hwritten]
  | boolean =>
      rcases hform with ⟨b, rfl⟩
      simp [isEmptyValue, Json.isBlank]
  | number | int32 | decimal128 | double =>
      rcases hform with ⟨n, rfl⟩
      simp [isEmptyValue, Json.isEmpty]
  | object =>
      rcases hform with ⟨members, rfl⟩
      simp [isEmptyValue, Json.isEmpty]
  | array =>
      rcases hform with ⟨items, rfl⟩
      simp [isEmptyValue, Json.isEmpty]

/-- A required field of a built-in kind that was given writes one value, which is empty only where a
string field that coerces trims a string of blanks away. -/
theorem Field.isEmptyValue_of_check_required {tolerant : Bool} {field : Field} {kind : Kind}
    (hkind : field.type = .builtin kind) (hrequired : field.facets.isRequired = true)
    {path : String} {value : Json} {draws drawn : Draws} {entries : Entries}
    (h : (field.check tolerant path (some value)).outcome draws = (.ok entries, drawn)) :
    ∃ output, entries = [(path, output)] ∧
      (field.isEmptyValue output = true ↔
        kind = .string ∧ field.facets.coerce = true ∧ field.facets.trim = true ∧
          ∃ text, value = .string text ∧ ∀ c ∈ text.toList, isBlank c = true) ∧
      (field.isEmptyValue output = true → output = .string "") := by
  rcases check_some_eq_ok.1 h with ⟨output, hpresent, hentries, -⟩
  rcases checkPresent_eq_ok.1 hpresent with ⟨hgiven, hrule, -⟩
  have hnonempty : kind.isEmptyValue value = false := by
    rw [← isEmptyValue_of_builtin hkind]
    exact hgiven hrequired
  have hread : kind.readValue field.facets value path = .ok output := by
    rw [applyRule_of_builtin hkind] at hrule
    rcases Kind.rule_eq_ok.1 hrule with ⟨-, hoptional, -⟩ | ⟨-, hread⟩
    · -- A required value is never let through empty.
      exact absurd (hrequired.symm.trans hoptional) (by decide)
    · exact hread
  have hwhen := Kind.isEmptyValue_of_readValue hnonempty hread
  rw [← isEmptyValue_of_builtin hkind] at hwhen
  refine ⟨output, hentries, hwhen, ?_⟩
  intro hempty
  rcases hwhen.1 hempty with ⟨rfl, -⟩
  rcases Kind.hasForm_of_readValue hread with ⟨text, rfl⟩
  rw [isEmptyValue_of_builtin hkind] at hempty
  have htext : text = "" := Kind.isEmpty_string_iff.1 hempty
  rw [htext]

/-- A required text that is trimmed. -/
def trimmedField : Field :=
  ⟨.builtin .string, { coerce := true, required := some ⟨true, none⟩, trim := true }⟩

theorem isEmptyValue_of_check_trimmedField :
    (∀ draws, (trimmedField.check false "f" (some (.string " "))).outcome draws =
      (.ok [("f", .string "")], draws)) ∧
      ∃ output, [("f", Json.string "")] = [("f", output)] ∧
        (trimmedField.isEmptyValue output = true ↔
          Kind.string = .string ∧ trimmedField.facets.coerce = true ∧
            trimmedField.facets.trim = true ∧
            ∃ text, Json.string " " = .string text ∧ ∀ c ∈ text.toList, isBlank c = true) ∧
        (trimmedField.isEmptyValue output = true → output = .string "") := by
  have hpasses : ∀ draws, (trimmedField.check false "f" (some (.string " "))).outcome draws =
      (.ok [("f", .string "")], draws) := fun _ => rfl
  exact ⟨hpasses, Field.isEmptyValue_of_check_required rfl rfl (hpasses fun _ => 0)⟩

/-- A required field may be given and yet be written as an empty value. -/
theorem exists_check_required_isEmptyValue :
    ¬ ∀ (tolerant : Bool) (field : Field) (kind : Kind) (path : String) (value : Json)
      (draws drawn : Draws) (entries : Entries), field.type = .builtin kind →
      field.facets.isRequired = true →
      (field.check tolerant path (some value)).outcome draws = (.ok entries, drawn) →
      ∀ entry ∈ entries, field.isEmptyValue entry.2 = false := by
  intro hclaim
  have hpasses : (trimmedField.check false "f" (some (.string " "))).outcome (fun _ => 0) =
      (.ok [("f", .string "")], fun _ => 0) := rfl
  have hnonempty : trimmedField.isEmptyValue (.string "") = false :=
    hclaim false trimmedField .string "f" (.string " ") _ _ _ rfl rfl hpasses ("f", .string "")
      List.mem_cons_self
  exact absurd hnonempty (by decide)

end Conform
