import Conform.Proofs.Emptiness
import Conform.Proofs.Letters
import Mathlib.Data.List.TakeWhile

/-!
# Texts in their final form

A field can ask for texts without blanks around them, in lower case or in upper case.  This file
defines:

* `Spells`: a text that is put together of the images of characters, one after the other;
* `IsTrimmed`: a text without blanks around it;

and proves that to give a text its final form twice is to give it once: `Kind.reshape_reshape`.
-/

namespace Conform

/-! ## Images in a row -/

/-- A text is put together of images of the characters of another, in order. -/
inductive Spells (image : Char → List Char → Prop) : List Char → List Char → Prop
  | nil : Spells image [] []
  | cons {c : Char} {word rest result : List Char} (hword : image c word)
    (hrest : Spells image rest result) : Spells image (c :: rest) (word ++ result)

namespace Spells

variable {image : Char → List Char → Prop} {chars result : List Char}

/-- A text is its own image where each of its characters is. -/
theorem eq_self (h : Spells image chars result)
    (hself : ∀ c ∈ chars, ∀ word, image c word → word = [c]) : result = chars := by
  induction h with
  | nil => rfl
  | @cons c word rest result hword _ ih =>
      have hrest := ih (fun other hother => hself other (List.mem_cons_of_mem c hother))
      rw [hself c List.mem_cons_self word hword, hrest, List.singleton_append]

theorem forall_mem {p : Char → Prop} (h : Spells image chars result)
    (hword : ∀ c ∈ chars, ∀ word, image c word → ∀ d ∈ word, p d) : ∀ d ∈ result, p d := by
  induction h with
  | nil => exact fun d hd => absurd hd List.not_mem_nil
  | @cons c word rest result himage _ ih =>
      intro d hd
      rcases List.mem_append.1 hd with hfirst | hlater
      · exact hword c List.mem_cons_self word himage d hfirst
      · exact ih (fun other hother => hword other (List.mem_cons_of_mem c hother)) d hlater

/-- A mapping leads back from the images of characters, one by one. -/
theorem flatMap_eq (h : Spells image chars result) {back : Char → List Char}
    (hback : ∀ c ∈ chars, ∀ word, image c word → word.flatMap back = [c]) :
    result.flatMap back = chars := by
  induction h with
  | nil => rfl
  | @cons c word rest result hword _ ih =>
      have hrest := ih (fun other hother => hback other (List.mem_cons_of_mem c hother))
      rw [List.flatMap_append, hback c List.mem_cons_self word hword, hrest,
        List.singleton_append]

end Spells

/-! ## Blanks around a text -/

/-- A text neither starts nor ends with a blank. -/
structure IsTrimmed (text : List Char) : Prop where
  head : ∀ c ∈ text.head?, isBlank c = false
  last : ∀ c ∈ text.getLast?, isBlank c = false

theorem trimStart_eq_self {text : List Char} (h : ∀ c ∈ text.head?, isBlank c = false) :
    trimStart text = text := by
  cases text with
  | nil => rfl
  | cons c rest =>
      have hc := h c rfl
      simp [trimStart, hc]

theorem IsTrimmed.trimChars_eq {text : List Char} (h : IsTrimmed text) : trimChars text = text := by
  have hreverse : trimStart text.reverse = text.reverse := by
    refine trimStart_eq_self (fun c hc => h.last c ?_)
    rwa [List.head?_reverse] at hc
  rw [trimChars, trimStart_eq_self h.head, hreverse, List.reverse_reverse]

theorem isBlank_head?_trimStart (text : List Char) :
    ∀ c ∈ (trimStart text).head?, isBlank c = false := by
  intro c hc
  have hne : trimStart text ≠ [] := by
    intro hnil
    rw [hnil] at hc
    cases hc
  have hhead := List.head_dropWhile_not isBlank hne
  have hc' : (trimStart text).head hne = c := Option.some.inj ((List.head?_eq_some_head hne).symm.trans hc)
  rw [← hc']
  exact hhead

theorem isTrimmed_trimChars (text : List Char) : IsTrimmed (trimChars text) := by
  refine ⟨?_, ?_⟩
  · -- What is dropped from the end leaves the start as it was.
    intro c hc
    rw [trimChars, List.head?_reverse] at hc
    have hsuffix : trimStart (trimStart text).reverse <:+ (trimStart text).reverse :=
      List.dropWhile_suffix _
    rcases hsuffix with ⟨dropped, hdropped⟩
    have hlast : (trimStart text).reverse.getLast? = some c := by
      rw [← hdropped, List.getLast?_append, hc]
      rfl
    rw [List.getLast?_reverse] at hlast
    exact isBlank_head?_trimStart text c hlast
  · intro c hc
    rw [trimChars, List.getLast?_reverse] at hc
    exact isBlank_head?_trimStart _ c hc

/-- Images that are not empty and have no blanks leave a text without blanks around it. -/
theorem IsTrimmed.spells {image : Char → List Char → Prop} {chars result : List Char}
    (h : IsTrimmed chars) (hspells : Spells image chars result)
    (hne : ∀ c word, image c word → word ≠ [])
    (hink : ∀ c word, image c word → isBlank c = false → ∀ d ∈ word, isBlank d = false) :
    IsTrimmed result := by
  refine ⟨?_, ?_⟩
  · cases hspells with
    | nil => exact h.head
    | @cons c word rest result hword hrest =>
        intro d hd
        have hfirst : d ∈ word.head? := by
          cases word with
          | nil => exact absurd rfl (hne c [] hword)
          | cons first others => exact hd
        exact hink c word hword (h.head c rfl) d (List.mem_of_mem_head? hfirst)
  · have hlast := h.last
    clear h
    induction hspells with
    | nil => exact hlast
    | @cons c word rest result hword hrest ih =>
        intro d hd
        cases hrest with
        | nil =>
            rw [List.append_nil] at hd
            exact hink c word hword (hlast c rfl) d (List.mem_of_mem_getLast? hd)
        | @cons next other later behind hother hlater =>
            have hbehind : other ++ behind ≠ [] := by
              intro hnil
              exact hne next other hother (List.append_eq_nil_iff.1 hnil).1
            rw [List.getLast?_append_of_ne_nil _ hbehind] at hd
            exact ih (by rwa [List.getLast?_cons_cons] at hlast) d hd

/-! ## Cases of a text -/

/-- What lower case makes of a character in some place of a text. -/
inductive LowerWord (c : Char) : List Char → Prop
  | final (h : c.toNat = 0x3A3) : LowerWord c [Char.ofNat 0x3C2]
  | medial (h : c.toNat = 0x3A3) : LowerWord c [Char.ofNat 0x3C3]
  | plain (h : c.toNat ≠ 0x3A3) : LowerWord c (lowerChar c)

theorem spells_lowerFrom (before chars : List Char) :
    Spells LowerWord chars (lowerFrom before chars) := by
  induction chars generalizing before with
  | nil => exact .nil
  | cons c rest ih =>
      refine .cons ?_ (ih (c :: before))
      by_cases hsigma : c.toNat = 0x3A3
      · simp only [hsigma, if_true]
        split
        · exact .final hsigma
        · exact .medial hsigma
      · simp only [hsigma, if_false]
        exact .plain hsigma

theorem spells_toUpper (chars : List Char) :
    Spells (fun c word => word = upperChar c) chars (chars.flatMap upperChar) := by
  induction chars with
  | nil => exact .nil
  | cons c rest ih => exact .cons rfl ih

namespace LowerWord

variable {c : Char} {word : List Char}

theorem ne_nil (h : LowerWord c word) : word ≠ [] := by
  cases h with
  | final | medial => exact List.cons_ne_nil _ _
  | plain => exact lowerChar_ne_nil c

theorem isLower (h : LowerWord c word) : ∀ d ∈ word, IsLower d := by
  intro d hd
  cases h with
  | final | medial =>
      rcases List.mem_singleton.1 hd with rfl
      exact ⟨by decide, by decide +kernel⟩
  | plain hsigma => exact isLower_of_mem_lowerChar hsigma hd

theorem eq_singleton (h : LowerWord c word) (hc : IsLower c) : word = [c] := by
  cases h with
  | final hsigma | medial hsigma => exact absurd hsigma hc.1
  | plain => exact hc.2

theorem isBlank_eq_false (h : LowerWord c word) (hc : isBlank c = false) :
    ∀ d ∈ word, isBlank d = false := by
  intro d hd
  cases h with
  | final | medial =>
      rcases List.mem_singleton.1 hd with rfl
      decide
  | plain => exact isBlank_of_mem_lowerChar hc hd

/-- Upper case leads back from both forms of sigma as it does from any other letter. -/
theorem flatMap_upperChar (h : LowerWord c word) (hc : (lowerChar c).flatMap upperChar = [c]) :
    word.flatMap upperChar = [c] := by
  cases h with
  | final hsigma | medial hsigma =>
      have hchar : c = Char.ofNat 0x3A3 := by rw [← hsigma, Char.ofNat_toNat]
      subst hchar
      decide +kernel
  | plain => exact hc

end LowerWord

theorem isLower_of_mem_toLower (text : String) : ∀ c ∈ (toLower text).toList, IsLower c := by
  rw [toLower, String.toList_ofList]
  exact (spells_lowerFrom [] text.toList).forall_mem (fun c _ word hword => hword.isLower)

theorem toLower_toLower (text : String) : toLower (toLower text) = toLower text := by
  have hself : lowerFrom [] (toLower text).toList = (toLower text).toList :=
    (spells_lowerFrom [] (toLower text).toList).eq_self
      (fun c hc word hword => hword.eq_singleton (isLower_of_mem_toLower text c hc))
  rw [toLower, hself, String.ofList_toList]

theorem toUpper_toUpper (text : String) : toUpper (toUpper text) = toUpper text := by
  have hself : (toUpper text).toList.flatMap upperChar = (toUpper text).toList := by
    refine (spells_toUpper _).eq_self ?_
    rintro c hc _ rfl
    rw [toUpper, String.toList_ofList] at hc
    rcases List.mem_flatMap.1 hc with ⟨source, -, himage⟩
    exact isUpper_of_mem_upperChar himage
  rw [toUpper, hself, String.ofList_toList]

/-- To ask for both cases is to ask for upper case of what is in lower case, which stays. -/
theorem toUpper_toLower_toUpper_toLower (text : String) :
    toUpper (toLower (toUpper (toLower text))) = toUpper (toLower text) := by
  have hback : (lowerFrom [] (toUpper (toLower text)).toList).flatMap upperChar =
      (toUpper (toLower text)).toList := by
    refine (spells_lowerFrom [] _).flatMap_eq ?_
    intro c hc word hword
    apply hword.flatMap_upperChar
    rw [toUpper, String.toList_ofList] at hc
    rcases List.mem_flatMap.1 hc with ⟨source, hsource, himage⟩
    exact upperChar_lowerChar (isLower_of_mem_toLower text source hsource) himage
  rw [toUpper, toLower, String.toList_ofList, hback, String.ofList_toList]

theorem IsTrimmed.toLower {text : String} (h : IsTrimmed text.toList) :
    IsTrimmed (toLower text).toList := by
  rw [Conform.toLower, String.toList_ofList]
  exact h.spells (spells_lowerFrom [] text.toList) (fun c word hword => hword.ne_nil)
    (fun c word hword hc => hword.isBlank_eq_false hc)

theorem IsTrimmed.toUpper {text : String} (h : IsTrimmed text.toList) :
    IsTrimmed (toUpper text).toList := by
  rw [Conform.toUpper, String.toList_ofList]
  refine h.spells (spells_toUpper text.toList) ?_ ?_
  · rintro c _ rfl
    exact upperChar_ne_nil c
  · rintro c _ rfl hc d hd
    exact isBlank_of_mem_upperChar hc hd

/-! ## Final forms -/

namespace Kind

/-- The text in the case that a field asks for. -/
def recase (facets : Facets) (text : String) : String :=
  let text := if facets.lowercase then toLower text else text
  if facets.uppercase then toUpper text else text

variable (facets : Facets)

theorem reshape_eq (text : String) :
    reshape facets text =
      if facets.coerce then recase facets (if facets.trim then Conform.trim text else text)
      else text := rfl

theorem recase_recase (text : String) :
    recase facets (recase facets text) = recase facets text := by
  unfold recase
  cases facets.lowercase with
  | false =>
      cases facets.uppercase with
      | false => rfl
      | true => exact toUpper_toUpper text
  | true =>
      cases facets.uppercase with
      | false => exact toLower_toLower text
      | true => exact toUpper_toLower_toUpper_toLower text

theorem isTrimmed_recase {text : String} (h : IsTrimmed text.toList) :
    IsTrimmed (recase facets text).toList := by
  unfold recase
  cases facets.lowercase with
  | false =>
      cases facets.uppercase with
      | false => exact h
      | true => exact h.toUpper
  | true =>
      cases facets.uppercase with
      | false => exact h.toLower
      | true => exact h.toLower.toUpper

/-- To give a text its final form twice is to give it once. -/
theorem reshape_reshape (text : String) :
    reshape facets (reshape facets text) = reshape facets text := by
  simp only [reshape_eq]
  cases facets.coerce with
  | false => rfl
  | true =>
      cases facets.trim with
      | false => exact recase_recase facets text
      | true =>
          have htrimmed : IsTrimmed (Conform.trim text).toList := by
            rw [Conform.trim, String.toList_ofList]
            exact isTrimmed_trimChars text.toList
          have hkept : Conform.trim (recase facets (Conform.trim text)) =
              recase facets (Conform.trim text) := by
            rw [Conform.trim, (isTrimmed_recase facets htrimmed).trimChars_eq,
              String.ofList_toList]
          simp only [if_true, hkept]
          exact recase_recase facets (Conform.trim text)

end Kind

end Conform
