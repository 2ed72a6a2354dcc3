import Conform.Pattern.CharSet
import Conform.Proofs.Letters

/-!
# Code points of character sets

A set of characters is used in two forms: matching asks whether a character is a member, and the
size of an automaton is counted on the members as ranges.  This file proves that the forms agree:

* `Ranges.contains_complement` and `Ranges.isCanonical_complement`: the complement has the code
  points that the ranges leave out, as ranges in order with gaps between them;
* `Ranges.IsCanonical.ext`: one set of code points is written in one such way;
* `CharSet.contains_codePoints`: the ranges of a set hold its members and no other characters;
* `CharSet.weight_congr`: the size of an automaton depends on the members of a set only.
-/

namespace Conform

namespace Ranges

/-! ## Set operations -/

@[simp] theorem contains_nil (n : Nat) : contains [] n = false := rfl

@[simp] theorem contains_cons (first last : Nat) (rest : Ranges) (n : Nat) :
    contains ((first, last) :: rest) n = ((first ≤ n && n ≤ last) || contains rest n) := rfl

@[simp] theorem contains_append (a b : Ranges) (n : Nat) :
    contains (a ++ b) n = (contains a n || contains b n) := List.any_append

theorem contains_eq_false_iff {ranges : Ranges} {n : Nat} :
    contains ranges n = false ↔ ∀ range ∈ ranges, n < range.1 ∨ range.2 < n := by
  rw [contains, List.any_eq_false]
  refine forall₂_congr fun range _ => ?_
  simp only [Bool.and_eq_true, decide_eq_true_eq]
  omega

theorem contains_flatMap {α : Type} (f : α → Ranges) (list : List α) (n : Nat) :
    contains (list.flatMap f) n = list.any fun a => contains (f a) n := by
  simp [contains, List.any_flatMap]

theorem contains_ofPoints (points : List Nat) (n : Nat) :
    contains (ofPoints points) n = points.contains n := by
  induction points with
  | nil => rfl
  | cons m rest ih =>
      have hpoint : (decide (m ≤ n) && decide (n ≤ m)) = (n == m) := by
        rw [Bool.eq_iff_iff]
        simp only [Bool.and_eq_true, decide_eq_true_eq, beq_iff_eq]
        omega
      rw [List.contains_cons, ← ih, ← hpoint]
      rfl

theorem contains_gaps_cons {n : Nat} (hn : n ≤ lastCodePoint) (next first last : Nat)
    (rest : Ranges) :
    contains (gaps next ((first, last) :: rest)) n =
      (decide (next ≤ n ∧ n < first) || contains (gaps (max next (last + 1)) rest) n) := by
  simp only [gaps]
  split
  · have hgap : (decide (next ≤ n) && decide (n ≤ min first (lastCodePoint + 1) - 1)) =
        decide (next ≤ n ∧ n < first) := by
      rw [← Bool.decide_and, decide_eq_decide]
      omega
    rw [contains_cons, hgap]
  · have hnone : ¬ (next ≤ n ∧ n < first) := by omega
    simp [hnone]

/-- The order of the ranges makes one pass enough: no later range reaches below the first end of the
range at hand. -/
theorem contains_gaps {n : Nat} (hn : n ≤ lastCodePoint) {ranges : Ranges} (next : Nat)
    (h : ranges.Pairwise fun a b => a.1 ≤ b.1) :
    contains (gaps next ranges) n = (decide (next ≤ n) && !contains ranges n) := by
  induction ranges generalizing next with
  | nil =>
      rw [gaps]
      split
      · simp [hn]
      · have hlt : ¬ next ≤ n := by omega
        simp [hlt]
  | cons range rest ih =>
      obtain ⟨first, last⟩ := range
      obtain ⟨hfirst, hrest⟩ := List.pairwise_cons.1 h
      rw [contains_gaps_cons hn, ih _ hrest, contains_cons]
      rcases Nat.lt_or_ge n first with hlt | hge
      · have hlater : contains rest n = false := contains_eq_false_iff.2 fun later hmem =>
          Or.inl (Nat.lt_of_lt_of_le hlt (hfirst later hmem))
        have hbefore : ¬ first ≤ n := by omega
        simp only [hlater, hlt, hbefore, and_true, decide_false, Bool.false_and, Bool.false_or,
          Bool.not_false, Bool.and_true, ← Bool.decide_or, decide_eq_decide]
        omega
      · have hafter : ¬ n < first := by omega
        simp only [hge, hafter, and_false, decide_false, decide_true, Bool.false_or, Bool.true_and,
          Bool.not_or, ← Bool.and_assoc, ← decide_not, ← Bool.decide_and]
        congr 1
        rw [decide_eq_decide]
        omega

theorem pairwise_sorted (ranges : Ranges) :
    (ranges.mergeSort fun a b => a.1 ≤ b.1).Pairwise fun a b => a.1 ≤ b.1 := by
  have hpairwise : (ranges.mergeSort fun a b => a.1 ≤ b.1).Pairwise
      fun a b => decide (a.1 ≤ b.1) = true := by
    refine List.pairwise_mergeSort ?_ ?_ ranges
    · intro a b c hab hbc
      simp only [decide_eq_true_eq] at hab hbc ⊢
      exact Nat.le_trans hab hbc
    · intro a b
      simp only [Bool.or_eq_true, decide_eq_true_eq]
      exact Nat.le_total a.1 b.1
  exact hpairwise.imp of_decide_eq_true

theorem contains_complement {n : Nat} (hn : n ≤ lastCodePoint) (ranges : Ranges) :
    contains (complement ranges) n = !contains ranges n := by
  have hsame : contains (ranges.mergeSort fun a b => a.1 ≤ b.1) n = contains ranges n :=
    (List.mergeSort_perm _ _).any_eq
  rw [complement, contains_gaps hn 0 (pairwise_sorted ranges), hsame]
  simp

theorem contains_difference {n : Nat} (hn : n ≤ lastCodePoint) (a b : Ranges) :
    contains (difference a b) n = (contains a n && !contains b n) := by
  simp [difference, contains_complement hn]

theorem contains_intersection {n : Nat} (hn : n ≤ lastCodePoint) (a b : Ranges) :
    contains (intersection a b) n = (contains a n && contains b n) := by
  simp [intersection, contains_complement hn]

/-! ## Canonical forms -/

/-- Ranges of code points in order, with code points left out between them. -/
structure IsCanonical (ranges : Ranges) : Prop where
  proper : ∀ range ∈ ranges, range.1 ≤ range.2
  bounded : ∀ range ∈ ranges, range.2 ≤ lastCodePoint
  apart : ranges.Pairwise fun a b => a.2 + 1 < b.1

namespace IsCanonical

variable {ranges a b rest : Ranges} {first last n : Nat}

theorem tail (h : IsCanonical ((first, last) :: rest)) : IsCanonical rest :=
  ⟨fun range hmem => h.proper range (List.mem_cons_of_mem _ hmem),
    fun range hmem => h.bounded range (List.mem_cons_of_mem _ hmem), h.apart.tail⟩

theorem contains_tail (h : IsCanonical ((first, last) :: rest)) (hn : n ≤ last + 1) :
    contains rest n = false := by
  refine contains_eq_false_iff.2 fun range hmem => Or.inl ?_
  exact Nat.lt_of_le_of_lt hn (List.rel_of_pairwise_cons h.apart hmem)

theorem contains_iff (h : IsCanonical ((first, last) :: rest)) :
    contains ((first, last) :: rest) n = true ↔
      first ≤ n ∧ n ≤ last ∨ last + 1 < n ∧ contains rest n = true := by
  rw [contains_cons, Bool.or_eq_true, Bool.and_eq_true, decide_eq_true_eq, decide_eq_true_eq]
  refine or_congr_right (iff_and_self.2 fun hrest => ?_)
  rcases Nat.lt_or_ge (last + 1) n with hlt | hge
  · exact hlt
  · exact absurd (h.contains_tail hge) (by rw [hrest]; exact Bool.noConfusion)

theorem contains_of_lt (h : IsCanonical ranges) (hn : lastCodePoint < n) :
    contains ranges n = false :=
  contains_eq_false_iff.2 fun range hmem => Or.inr (Nat.lt_of_le_of_lt (h.bounded range hmem) hn)

/-- One set of code points has one canonical form. -/
theorem ext (ha : IsCanonical a) (hb : IsCanonical b) (h : ∀ n, contains a n = contains b n) :
    a = b := by
  induction a generalizing b with
  | nil =>
      cases b with
      | nil => rfl
      | cons range rest =>
          have hle := hb.proper range List.mem_cons_self
          have hout := contains_eq_false_iff.1 (h range.1).symm range List.mem_cons_self
          omega
  | cons range rest ih =>
      obtain ⟨first, last⟩ := range
      have hle := ha.proper _ List.mem_cons_self
      cases b with
      | nil =>
          have hout := contains_eq_false_iff.1 (h first) (first, last) List.mem_cons_self
          simp only at hle hout
          omega
      | cons range' rest' =>
          obtain ⟨first', last'⟩ := range'
          have hle' := hb.proper _ List.mem_cons_self
          have hiff : ∀ n, (first ≤ n ∧ n ≤ last ∨ last + 1 < n ∧ contains rest n = true) ↔
              (first' ≤ n ∧ n ≤ last' ∨ last' + 1 < n ∧ contains rest' n = true) := by
            intro n
            rw [← ha.contains_iff, ← hb.contains_iff, h n]
          simp only at hle hle'
          -- The least code points agree, and so do the ends of the runs that begin there.
          have hfirst : first = first' := by
            have hin := hiff first
            have hin' := hiff first'
            omega
          subst hfirst
          have hlast : last = last' := by
            have hout := hiff (last + 1)
            have hout' := hiff (last' + 1)
            omega
          subst hlast
          congr 1
          refine ih ha.tail hb.tail fun n => ?_
          rcases Nat.lt_or_ge (last + 1) n with hlt | hge
          · have hbeyond : ¬ n ≤ last := by omega
            have hn := hiff n
            simp only [hlt, hbeyond, and_false, true_and, false_or] at hn
            exact Bool.eq_iff_iff.2 hn
          · rw [ha.contains_tail hge, hb.contains_tail hge]

end IsCanonical

/-- Every gap is cut out between the code point reached so far and the next range. -/
theorem of_mem_gaps {ranges : Ranges} {next : Nat} {gap : Nat × Nat} (h : gap ∈ gaps next ranges) :
    next ≤ gap.1 ∧ gap.1 ≤ gap.2 ∧ gap.2 ≤ lastCodePoint := by
  induction ranges generalizing next with
  | nil =>
      rw [gaps] at h
      split at h
      · rw [List.mem_singleton.1 h]
        exact ⟨Nat.le_refl _, ‹_›, Nat.le_refl _⟩
      · cases h
  | cons range rest ih =>
      obtain ⟨first, last⟩ := range
      have hlater : gap ∈ gaps (max next (last + 1)) rest →
          next ≤ gap.1 ∧ gap.1 ≤ gap.2 ∧ gap.2 ≤ lastCodePoint :=
        fun hmem => ⟨Nat.le_trans (Nat.le_max_left _ _) (ih hmem).1, (ih hmem).2⟩
      simp only [gaps] at h
      split at h
      · rcases List.mem_cons.1 h with rfl | h
        · simp only
          omega
        · exact hlater h
      · exact hlater h

theorem pairwise_gaps {ranges : Ranges} (next : Nat) (h : ∀ range ∈ ranges, range.1 ≤ range.2) :
    (gaps next ranges).Pairwise fun a b => a.2 + 1 < b.1 := by
  induction ranges generalizing next with
  | nil =>
      rw [gaps]
      split
      · exact List.pairwise_singleton _ _
      · exact List.Pairwise.nil
  | cons range rest ih =>
      obtain ⟨first, last⟩ := range
      obtain ⟨hrange, hrest⟩ := List.forall_mem_cons.1 h
      simp only [gaps]
      split
      · refine List.pairwise_cons.2 ⟨?_, ih _ hrest⟩
        -- The range at hand lies between the gap before it and the gaps after it.
        intro gap hgap
        have hle := (of_mem_gaps hgap).1
        simp only at hrange hle ⊢
        omega
      · exact ih _ hrest

theorem isCanonical_complement {ranges : Ranges} (h : ∀ range ∈ ranges, range.1 ≤ range.2) :
    IsCanonical (complement ranges) where
  proper := fun _ hmem => (of_mem_gaps hmem).2.1
  bounded := fun _ hmem => (of_mem_gaps hmem).2.2
  apart := pairwise_gaps 0 fun range hmem => h range (List.mem_mergeSort.1 hmem)

end Ranges

/-! ## Members as ranges -/

theorem toNat_le_lastCodePoint (c : Char) : c.toNat ≤ Ranges.lastCodePoint := by
  have h := c.valid
  unfold UInt32.isValidChar Nat.isValidChar at h
  unfold Ranges.lastCodePoint Char.toNat
  omega

theorem Category.contains_codePoints (category : Category) (c : Char) :
    category.codePoints.contains c.toNat = category.contains c := by
  cases category with
  | unassigned =>
      rw [codePoints, Ranges.contains_complement (toNat_le_lastCodePoint c),
        Ranges.contains_flatMap]
      simp [contains, List.not_any_eq_all_not]
  | _ => rfl

theorem Property.contains_word (c : Char) : word.contains c.toNat = isWord c := by
  rw [word, Ranges.contains_append, Ranges.contains_difference (toNat_le_lastCodePoint c), isWord]
  by_cases hascii : c.toNat < 0x80
  · have hle : c.toNat ≤ 0x7F := by omega
    simp [hascii, hle]
  · have hle : ¬ c.toNat ≤ 0x7F := by omega
    have hbeyond : asciiWord.contains c.toNat = false := by
      simp only [asciiWord, Ranges.contains_cons, Ranges.contains_nil, Bool.or_eq_false_iff,
        Bool.and_eq_false_iff, decide_eq_false_iff_not, and_true]
      omega
    simp [hascii, hle, hbeyond]

theorem Property.contains_whiteSpace (c : Char) : whiteSpace.contains c.toNat = isBlank c := by
  rw [Bool.eq_iff_iff]
  simp only [whiteSpace, Ranges.contains_cons, Ranges.contains_nil, isBlank, Bool.or_eq_true,
    Bool.and_eq_true, decide_eq_true_eq, beq_iff_eq, Bool.false_eq_true, or_false]
  omega

/-! ## Characters among code points -/

theorem Ranges.isCanonical_characters (ranges : Ranges) : IsCanonical ranges.characters := by
  refine isCanonical_complement fun range hmem => ?_
  rcases List.mem_append.1 hmem with hmem | hmem
  · exact (of_mem_gaps hmem).2.1
  · rw [List.mem_singleton.1 hmem]
    decide

theorem Ranges.contains_characters {n : Nat} (hn : n ≤ lastCodePoint) (ranges : Ranges) :
    ranges.characters.contains n = (ranges.contains n && !(0xD800 ≤ n && n ≤ 0xDFFF)) := by
  rw [characters, contains_difference hn, contains_cons, contains_nil, Bool.or_false]

/-- Ranges with the same characters are the same once they are in order. -/
theorem Ranges.characters_congr {a b : Ranges}
    (h : ∀ c : Char, a.contains c.toNat = b.contains c.toNat) : a.characters = b.characters := by
  refine (isCanonical_characters a).ext (isCanonical_characters b) fun n => ?_
  rcases Nat.lt_or_ge lastCodePoint n with hlt | hn
  · rw [(isCanonical_characters a).contains_of_lt hlt,
      (isCanonical_characters b).contains_of_lt hlt]
  · rw [contains_characters hn, contains_characters hn]
    by_cases hvalid : n.isValidChar
    · have hc := h (Char.ofNat n)
      rw [Char.ofNat, dif_pos hvalid] at hc
      have hn : (Char.ofNatAux n hvalid).toNat = n := rfl
      rw [← hn, hc]
    · -- A code point that is no character is a surrogate.
      have hsurrogate : (decide (0xD800 ≤ n) && decide (n ≤ 0xDFFF)) = true := by
        unfold Nat.isValidChar at hvalid
        unfold lastCodePoint at hn
        rw [Bool.and_eq_true, decide_eq_true_eq, decide_eq_true_eq]
        omega
      rw [hsurrogate, Bool.not_true, Bool.and_false, Bool.and_false]

/-! ## Case-insensitive classes -/

/-- A character that is neither moved to a representative nor one is alone in its class. -/
theorem foldClass_eq_singleton {c : Char} (h : c.toNat ∉ foldedPoints) : foldClass c = [c] := by
  have hfree : ∀ run ∈ CaseTable.foldRuns, c.toNat ∉ run.points ∧ c.toNat ∉ run.points.map run.image := by
    intro run hrun
    rw [← not_or, ← List.mem_append]
    exact fun hmem => h (List.mem_flatMap.2 ⟨run, hrun, hmem⟩)
  have hfirst : ∀ run ∈ CaseTable.foldRuns, 0 < run.first := by decide +kernel
  have hrepresentative : foldRepresentative c = c := by
    have hnone : CaseRun.find? CaseTable.foldRuns c.toNat = none := by
      rw [CaseRun.find?, Option.map_eq_none_iff, List.find?_eq_none]
      exact fun run hrun hcovers => (hfree run hrun).1 (CaseRun.mem_points hcovers)
    rw [foldRepresentative, hnone]
  have hsources : CaseRun.sources CaseTable.foldRuns c.toNat = [] := by
    rw [CaseRun.sources, List.filterMap_eq_nil_iff]
    intro run hrun
    refine if_neg fun hcovers => ?_
    refine (hfree run hrun).2 (List.mem_map.2 ⟨_, CaseRun.mem_points hcovers, ?_⟩)
    -- No run begins at zero, so what it moves to a character does not come from below zero.
    have hpos : 0 < ((c.toNat : Int) - run.shift).toNat := by
      simp only [CaseRun.covers, Bool.and_eq_true, decide_eq_true_eq] at hcovers
      have := hfirst run hrun
      omega
    unfold CaseRun.image
    omega
  rw [foldClass, hrepresentative, hsources, List.map_nil]

theorem contains_foldedMembers (holds : Char → Bool) (c : Char) :
    (foldedMembers holds).contains c.toNat =
      (foldedPoints.contains c.toNat && (foldClass c).any holds) := by
  rw [Bool.eq_iff_iff, Bool.and_eq_true, List.contains_iff_mem, List.contains_iff_mem,
    foldedMembers, List.mem_map]
  constructor
  · rintro ⟨entry, hmem, hpoint⟩
    obtain ⟨hentry, hany⟩ := List.mem_filter.1 hmem
    obtain ⟨n, hn, rfl⟩ := List.mem_map.1 hentry
    obtain rfl : n = c.toNat := hpoint
    rw [Char.ofNat_toNat] at hany
    exact ⟨hn, hany⟩
  · rintro ⟨hmem, hany⟩
    refine ⟨(c.toNat, foldClass (Char.ofNat c.toNat)), List.mem_filter.2 ⟨?_, ?_⟩, rfl⟩
    · exact List.mem_map.2 ⟨c.toNat, hmem, rfl⟩
    · rwa [Char.ofNat_toNat]

theorem asciiLower_eq_self {c : Char} (h : 0x80 ≤ c.toNat) : asciiLower c = c := by
  rw [asciiLower, if_neg]
  rintro ⟨-, hle⟩
  have hz : c.toNat ≤ 'Z'.toNat := hle
  have hvalue : 'Z'.toNat = 0x5A := rfl
  omega

theorem asciiUpper_eq_self {c : Char} (h : 0x80 ≤ c.toNat) : asciiUpper c = c := by
  rw [asciiUpper, if_neg]
  rintro ⟨-, hle⟩
  have hz : c.toNat ≤ 'z'.toNat := hle
  have hvalue : 'z'.toNat = 0x7A := rfl
  omega

/-! ## Sets of patterns -/

namespace CharSet

theorem contains_codePoints (s : CharSet) (c : Char) :
    s.codePoints.contains c.toNat = s.contains c := by
  have hc := toNat_le_lastCodePoint c
  induction s with
  | ranges rs => rfl
  | word => exact Property.contains_word c
  | digit => rfl
  | space => exact Property.contains_whiteSpace c
  | categories cs =>
      rw [codePoints, Ranges.contains_flatMap, contains, Category.anyContains]
      simp only [Category.contains_codePoints]
  | property name =>
      rw [codePoints, contains]
      cases Property.find? name <;> rfl
  | union a b iha ihb => rw [codePoints, Ranges.contains_append, iha, ihb, contains]
  | intersection a b iha ihb =>
      rw [codePoints, Ranges.contains_intersection hc, iha, ihb, contains]
  | difference a b iha ihb => rw [codePoints, Ranges.contains_difference hc, iha, ihb, contains]
  | symmetricDifference a b iha ihb =>
      rw [codePoints, Ranges.contains_append, Ranges.contains_difference hc,
        Ranges.contains_difference hc, iha, ihb, contains]
      cases a.contains c <;> cases b.contains c <;> rfl
  | negation s ih => rw [codePoints, Ranges.contains_complement hc, ih, contains]
  | folded s ih =>
      rw [codePoints, Ranges.contains_append, Ranges.contains_difference hc, ih]
      simp only [Ranges.contains_ofPoints, contains_foldedMembers, contains]
      by_cases hmem : c.toNat ∈ foldedPoints
      · simp [hmem]
      · simp [hmem, foldClass_eq_singleton hmem]
  | asciiFolded s ih =>
      rw [codePoints, Ranges.contains_append, Ranges.contains_difference hc, ih,
        Ranges.contains_ofPoints]
      by_cases hascii : c.toNat < 0x80
      · have hle : c.toNat ≤ 0x7F := by omega
        simp [hascii, hle, Char.ofNat_toNat]
      · have hle : ¬ c.toNat ≤ 0x7F := by omega
        simp [hascii, hle, contains, asciiLower_eq_self (Nat.not_lt.1 hascii),
          asciiUpper_eq_self (Nat.not_lt.1 hascii)]

/-- The bytes for a set depend on its members only, however the set is written. -/
theorem weight_congr {s t : CharSet} (h : ∀ c, s.contains c = t.contains c)
    (direction : Direction) : s.weight direction = t.weight direction := by
  have hsame : s.codePoints.characters = t.codePoints.characters := by
    refine Ranges.characters_congr fun c => ?_
    rw [contains_codePoints, contains_codePoints, h c]
  unfold weight Ranges.weight
  rw [hsame]

end CharSet

end Conform
