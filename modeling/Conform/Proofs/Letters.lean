import Conform.Text.Blank
import Conform.Text.Case
import Mathlib.Data.List.Basic

/-!
# Letters whose case has been mapped

Case mapping goes by tables, and what the tables move something to they do not move any further.
The runs of a table are compared with each other as a whole wherever they lie apart, and point by
point where they do not.  This file defines:

* `CaseRun.meets`: a comparison of what a run moves to with what another run moves;
* `CaseRun.Lands`: a run that moves to characters which stay, and which are not blank;
* `IsLower`, `IsUpper`: a character that is its own lower or upper case;

and proves that each image of a character is its own image, `isLower_of_mem_lowerChar` and
`isUpper_of_mem_upperChar`, and that upper case survives being mapped to lower case and back,
`upperChar_lowerChar`.
-/

namespace Conform

/-! ## Runs -/

namespace CaseRun

/-- A run of one code point that stays where it is. -/
def single (n : Nat) : CaseRun := ⟨n, n, 1, 0⟩

/-- What a run moves lies apart from some bounds. -/
def apart (run : CaseRun) (low high : Nat) : Bool :=
  Nat.blt (run.image run.last) low || Nat.blt high (run.image run.first)

/-- A test holds of the code points that a run moves among those of another. -/
def meets (run other : CaseRun) (test : Nat → Bool) : Bool :=
  run.apart other.first other.last ||
    run.points.all fun n => !other.covers (run.image n) || test n

/-- A list in blocks, so that a comparison can pass over most of them at once. -/
def blocks : Nat → List CaseRun → List (List CaseRun)
  | 0, runs => [runs]
  | count + 1, runs => runs.take 14 :: blocks count (runs.drop 14)

def lowest (runs : List CaseRun) : Nat :=
  runs.foldr (fun run low => Nat.min run.first low) 0x110000

def highest (runs : List CaseRun) : Nat := runs.foldr (fun run high => Nat.max run.last high) 0

/-- A test holds of the code points that a run moves among those of other runs. -/
def meetsAll (run : CaseRun) (others : List CaseRun) (test : CaseRun → Nat → Bool) : Bool :=
  (blocks 20 others).all fun block =>
    run.apart (lowest block) (highest block) || block.all fun other => run.meets other (test other)

/-- A run moves nothing to where other runs are. -/
def misses (run : CaseRun) (others : List CaseRun) : Bool := run.meetsAll others fun _ _ => false

variable {run other : CaseRun} {n : Nat}

theorem le_of_covers (h : run.covers n = true) : run.first ≤ n ∧ n ≤ run.last := by
  simp only [covers, Bool.and_eq_true, decide_eq_true_eq] at h
  exact h.1

theorem mem_points (h : run.covers n = true) : n ∈ run.points := by
  have hbounds := le_of_covers h
  have hstep : (n - run.first) % run.step = 0 := by
    simp only [covers, Bool.and_eq_true, beq_iff_eq] at h
    exact h.2
  have hquotient : (n - run.first) / run.step ≤ (run.last - run.first) / run.step :=
    Nat.div_le_div_right (by omega)
  refine List.mem_map.2 ⟨(n - run.first) / run.step, ?_, ?_⟩
  · exact List.mem_range.2 (Nat.lt_succ_of_le hquotient)
  · rw [Nat.mul_div_cancel' (Nat.dvd_of_mod_eq_zero hstep)]
    omega

theorem not_apart {low high : Nat} (hn : run.covers n = true) (hlow : low ≤ run.image n)
    (hhigh : run.image n ≤ high) : run.apart low high = false := by
  have hsource := le_of_covers hn
  refine Bool.eq_false_iff.2 (fun hapart => ?_)
  simp only [apart, Bool.or_eq_true, Nat.blt_eq] at hapart
  rcases hapart with hbelow | habove
  · simp only [image] at hbelow hlow
    omega
  · simp only [image] at habove hhigh
    omega

theorem of_meets {test : Nat → Bool} (h : run.meets other test = true)
    (hn : run.covers n = true) (hother : other.covers (run.image n) = true) : test n = true := by
  have himage := le_of_covers hother
  simp only [meets, not_apart hn himage.1 himage.2, Bool.false_or, List.all_eq_true,
    Bool.or_eq_true, Bool.not_eq_true'] at h
  rcases h n (mem_points hn) with hmissed | htest
  · exact absurd (hmissed.symm.trans hother) (by decide)
  · exact htest

theorem mem_blocks {runs : List CaseRun} (h : run ∈ runs) (count : Nat) :
    ∃ block ∈ blocks count runs, run ∈ block := by
  induction count generalizing runs with
  | zero => exact ⟨runs, List.mem_singleton_self runs, h⟩
  | succ count ih =>
      rw [← List.take_append_drop 14 runs] at h
      rcases List.mem_append.1 h with hfirst | hlater
      · exact ⟨runs.take 14, List.mem_cons_self, hfirst⟩
      · rcases ih hlater with ⟨block, hblock, hmem⟩
        exact ⟨block, List.mem_cons_of_mem _ hblock, hmem⟩

theorem lowest_le {runs : List CaseRun} (h : run ∈ runs) : lowest runs ≤ run.first := by
  induction runs with
  | nil => exact absurd h List.not_mem_nil
  | cons first rest ih =>
      rcases List.mem_cons.1 h with rfl | hrest
      · exact Nat.min_le_left _ _
      · exact Nat.le_trans (Nat.min_le_right _ _) (ih hrest)

theorem le_highest {runs : List CaseRun} (h : run ∈ runs) : run.last ≤ highest runs := by
  induction runs with
  | nil => exact absurd h List.not_mem_nil
  | cons first rest ih =>
      rcases List.mem_cons.1 h with rfl | hrest
      · exact Nat.le_max_left _ _
      · exact Nat.le_trans (ih hrest) (Nat.le_max_right _ _)

theorem of_meetsAll {others : List CaseRun} {test : CaseRun → Nat → Bool}
    (h : run.meetsAll others test = true) (hmem : other ∈ others) (hn : run.covers n = true)
    (hother : other.covers (run.image n) = true) : test other n = true := by
  rcases mem_blocks hmem 20 with ⟨block, hblock, hinside⟩
  have himage := le_of_covers hother
  -- The block of the other run has it between its bounds, so it is not passed over.
  have hnear : run.apart (lowest block) (highest block) = false :=
    not_apart hn (Nat.le_trans (lowest_le hinside) himage.1)
      (Nat.le_trans himage.2 (le_highest hinside))
  have htests := List.all_eq_true.1 h block hblock
  simp only [hnear, Bool.false_or, List.all_eq_true] at htests
  exact of_meets (htests other hinside) hn hother

theorem covers_image_of_misses {others : List CaseRun} (h : run.misses others = true)
    (hmem : other ∈ others) (hn : run.covers n = true) : other.covers (run.image n) = false := by
  refine Bool.eq_false_iff.2 (fun hother => ?_)
  exact absurd (of_meetsAll h hmem hn hother) (by decide)

@[simp] theorem covers_single : (single n).covers n = true := by
  simp [covers, single]

theorem covers_single_eq_false_iff {m : Nat} : (single m).covers n = false ↔ n ≠ m := by
  constructor
  · rintro h rfl
    exact absurd (h.symm.trans covers_single) (by decide)
  · intro hne
    refine Bool.eq_false_iff.2 (fun h => hne ?_)
    have hbounds := le_of_covers h
    exact Nat.le_antisymm hbounds.2 hbounds.1

@[simp] theorem image_single : (single n).image n = n := by
  simp [image, single]

theorem find?_eq_some {runs : List CaseRun} {m : Nat} (h : find? runs n = some m) :
    ∃ run ∈ runs, run.covers n = true ∧ run.image n = m := by
  rcases Option.map_eq_some_iff.1 h with ⟨run, hrun, himage⟩
  have hcovers : run.covers n = true := List.find?_some (p := fun run => covers run n) hrun
  exact ⟨run, List.mem_of_find?_eq_some hrun, hcovers, himage⟩

theorem find?_eq_none_iff {runs : List CaseRun} :
    find? runs n = none ↔ ∀ run ∈ runs, run.covers n = false := by
  simp [find?]

/-- The blanks. -/
def blanks : List CaseRun :=
  [⟨9, 13, 1, 0⟩, single 0x20, single 0x85, single 0xA0, single 0x1680, ⟨0x2000, 0x200A, 1, 0⟩,
    ⟨0x2028, 0x2029, 1, 0⟩, single 0x202F, single 0x205F, single 0x3000]

/-- Where no run moves anything to: the surrogates, the dotted capital i, and the blanks. -/
def avoided : List CaseRun := ⟨0xD800, 0xDFFF, 1, 0⟩ :: single 0x130 :: blanks

/-- A run moves to characters that are neither blank nor moved any further. -/
structure Lands (run : CaseRun) (moved : List CaseRun) : Prop where
  bounded : run.image run.last < 0x110000
  avoids : run.misses avoided = true
  stays : run.misses moved = true

/-- Whether a run `Lands`. -/
def lands (run : CaseRun) (moved : List CaseRun) : Bool :=
  Nat.blt (run.image run.last) 0x110000 && run.misses avoided && run.misses moved

theorem lands_iff {moved : List CaseRun} : run.lands moved = true ↔ run.Lands moved := by
  simp only [lands, Bool.and_eq_true, Nat.blt_eq]
  constructor
  · rintro ⟨⟨hbounded, havoids⟩, hstays⟩
    exact ⟨hbounded, havoids, hstays⟩
  · rintro ⟨hbounded, havoids, hstays⟩
    exact ⟨⟨hbounded, havoids⟩, hstays⟩

namespace Lands

variable {moved : List CaseRun}

theorem isValidChar (h : run.Lands moved) (hn : run.covers n = true) :
    (run.image n).isValidChar := by
  have hsurrogate : covers ⟨0xD800, 0xDFFF, 1, 0⟩ (run.image n) = false :=
    covers_image_of_misses h.avoids List.mem_cons_self hn
  have hbounded := h.bounded
  have hsource := le_of_covers hn
  simp only [covers, Bool.and_eq_false_iff, decide_eq_false_iff_not, beq_eq_false_iff_ne] at hsurrogate
  simp only [image] at hbounded hsurrogate ⊢
  unfold Nat.isValidChar
  omega

theorem toNat_ofNat (h : run.Lands moved) (hn : run.covers n = true) :
    (Char.ofNat (run.image n)).toNat = run.image n := by
  have hvalid : Char.ofNat (run.image n) = Char.ofNatAux (run.image n) (h.isValidChar hn) :=
    dif_pos _
  rw [hvalid]
  rfl

theorem image_ne_dotted (h : run.Lands moved) (hn : run.covers n = true) : run.image n ≠ 0x130 := by
  have hdotted : single 0x130 ∈ avoided := List.mem_cons_of_mem _ List.mem_cons_self
  exact covers_single_eq_false_iff.1 (covers_image_of_misses h.avoids hdotted hn)

theorem isBlank_image (h : run.Lands moved) (hn : run.covers n = true) :
    isBlank (Char.ofNat (run.image n)) = false := by
  have hmisses : ∀ blank ∈ blanks, blank.covers (run.image n) = false := fun blank hblank =>
    covers_image_of_misses h.avoids (List.mem_cons_of_mem _ (List.mem_cons_of_mem _ hblank)) hn
  rw [isBlank, h.toNat_ofNat hn]
  simp only [blanks, List.forall_mem_cons, covers, single, Bool.and_eq_false_iff,
    decide_eq_false_iff_not, beq_eq_false_iff_ne] at hmisses
  simp only [Bool.or_eq_false_iff, Bool.and_eq_false_iff, decide_eq_false_iff_not,
    beq_eq_false_iff_ne]
  omega

theorem charOr_eq (h : run.Lands moved) (hn : run.covers n = true) (c : Char) :
    charOr c (run.image n) = Char.ofNat (run.image n) :=
  if_pos (h.isValidChar hn)

end Lands

end CaseRun

/-! ## Tables -/

namespace CaseTable

/-- The characters that lower case moves. -/
def lowerMoved : List CaseRun := .single 0x3A3 :: lowerRuns

/-- The characters that upper case moves. -/
def upperMoved : List CaseRun := upperExpansions.map (fun entry => .single entry.1) ++ upperRuns

/-- The characters that stand in upper cases of several characters. -/
def expansionCodes : List Nat := upperExpansions.flatMap (·.2)

theorem lands_of_mem_lowerRuns : ∀ run ∈ lowerRuns, run.Lands lowerMoved := by
  have hall : (lowerRuns.all (·.lands lowerMoved)) = true := by decide +kernel
  intro run hrun
  exact CaseRun.lands_iff.1 (List.all_eq_true.1 hall run hrun)

theorem lands_of_mem_upperRuns : ∀ run ∈ upperRuns, run.Lands upperMoved := by
  have hall : (upperRuns.all (·.lands upperMoved)) = true := by decide +kernel
  intro run hrun
  exact CaseRun.lands_iff.1 (List.all_eq_true.1 hall run hrun)

theorem lands_of_mem_expansionCodes : ∀ n ∈ expansionCodes, (CaseRun.single n).Lands upperMoved := by
  have hall : (expansionCodes.all fun n => (CaseRun.single n).lands upperMoved) = true := by
    decide +kernel
  intro n hn
  exact CaseRun.lands_iff.1 (List.all_eq_true.1 hall n hn)

/-- Where upper case moves a character, lower case moves it back or to one of the same upper
case. -/
theorem upperRuns_return : ∀ run ∈ upperRuns, run.meetsAll lowerRuns (fun other n =>
    other.image (run.image n) == n ||
      upperChar (Char.ofNat (other.image (run.image n))) == [Char.ofNat (run.image n)]) = true := by
  have hall : (upperRuns.all fun run => run.meetsAll lowerRuns fun other n =>
      other.image (run.image n) == n ||
        upperChar (Char.ofNat (other.image (run.image n))) == [Char.ofNat (run.image n)]) = true := by
    decide +kernel
  exact fun run hrun => List.all_eq_true.1 hall run hrun

theorem expansionCodes_return : ∀ n ∈ expansionCodes, (CaseRun.single n).meetsAll lowerRuns
    (fun other n => upperChar (Char.ofNat (other.image n)) == [Char.ofNat n]) = true := by
  have hall : (expansionCodes.all fun n => (CaseRun.single n).meetsAll lowerRuns fun other n =>
      upperChar (Char.ofNat (other.image n)) == [Char.ofNat n]) = true := by
    decide +kernel
  exact fun n hn => List.all_eq_true.1 hall n hn

end CaseTable

/-! ## Images of characters -/

/-- What lower case makes of a character on its own. -/
inductive LowerImage (c : Char) : Char → Prop
  | ascii (h : c.toNat < 0x80) : LowerImage c (asciiLower c)
  | dotted : LowerImage c 'i'
  | dot : LowerImage c (Char.ofNat 0x307)
  | run {run : CaseRun} (hrun : run ∈ CaseTable.lowerRuns) (hcovers : run.covers c.toNat = true) :
    LowerImage c (Char.ofNat (run.image c.toNat))
  | self (h : lowerChar c = [c]) : LowerImage c c

theorem lowerImage_of_mem {c d : Char} (h : d ∈ lowerChar c) : LowerImage c d := by
  unfold lowerChar at h
  split at h
  · next hascii =>
      rcases List.mem_singleton.1 h with rfl
      exact .ascii hascii
  · next hascii =>
      split at h
      · rcases List.mem_pair.1 h with rfl | rfl
        · exact .dotted
        · exact .dot
      · next hdotted =>
          split at h
          · next n hfind =>
              rcases List.mem_singleton.1 h with rfl
              rcases CaseRun.find?_eq_some hfind with ⟨run, hrun, hcovers, rfl⟩
              rw [(CaseTable.lands_of_mem_lowerRuns run hrun).charOr_eq hcovers]
              exact .run hrun hcovers
          · next hfind =>
              rcases List.mem_singleton.1 h with rfl
              refine .self ?_
              simp [lowerChar, hascii, hdotted, hfind]

/-- What upper case makes of a character. -/
inductive UpperImage (c : Char) : Char → Prop
  | ascii (h : c.toNat < 0x80) : UpperImage c (asciiUpper c)
  | expansion {n : Nat} (hn : n ∈ CaseTable.expansionCodes) : UpperImage c (Char.ofNat n)
  | run {run : CaseRun} (hrun : run ∈ CaseTable.upperRuns) (hcovers : run.covers c.toNat = true)
    (h : upperChar c = [Char.ofNat (run.image c.toNat)]) :
    UpperImage c (Char.ofNat (run.image c.toNat))
  | self (h : upperChar c = [c]) : UpperImage c c

theorem upperImage_of_mem {c d : Char} (h : d ∈ upperChar c) : UpperImage c d := by
  have hall := h
  unfold upperChar at hall
  split at hall
  · next hascii =>
      rcases List.mem_singleton.1 hall with rfl
      exact .ascii hascii
  · next hascii =>
      split at hall
      · next ns hlookup =>
          rcases List.mem_map.1 hall with ⟨n, hn, rfl⟩
          have hentry : (c.toNat, ns) ∈ CaseTable.upperExpansions := by
            rcases List.lookup_eq_some_iff.1 hlookup with ⟨before, after, hsplit, -⟩
            rw [hsplit]
            exact List.mem_append_right before List.mem_cons_self
          have hcode : n ∈ CaseTable.expansionCodes := List.mem_flatMap.2 ⟨_, hentry, hn⟩
          have hchar := (CaseTable.lands_of_mem_expansionCodes n hcode).charOr_eq
            CaseRun.covers_single c
          rw [CaseRun.image_single] at hchar
          rw [hchar]
          exact .expansion hcode
      · next hlookup =>
          split at hall
          · next n hfind =>
              rcases List.mem_singleton.1 hall with rfl
              rcases CaseRun.find?_eq_some hfind with ⟨run, hrun, hcovers, rfl⟩
              have hchar := (CaseTable.lands_of_mem_upperRuns run hrun).charOr_eq hcovers c
              rw [hchar]
              refine .run hrun hcovers ?_
              simp [upperChar, hascii, hlookup, hfind, hchar]
          · next hfind =>
              rcases List.mem_singleton.1 hall with rfl
              refine .self ?_
              simp [upperChar, hascii, hlookup, hfind]

/-! ## Characters that stay -/

/-- A character that is its own lower case wherever it stands. -/
def IsLower (c : Char) : Prop := c.toNat ≠ 0x3A3 ∧ lowerChar c = [c]

/-- A character that is its own upper case. -/
def IsUpper (c : Char) : Prop := upperChar c = [c]

theorem forall_ascii {p : Char → Prop} (h : ∀ n < 0x80, p (Char.ofNat n)) {c : Char}
    (hc : c.toNat < 0x80) : p c := by
  have hchar := h c.toNat hc
  rwa [Char.ofNat_toNat] at hchar

/-- Among the first letters there are pairs only, and no blanks. -/
theorem ascii_cases {c : Char} (hc : c.toNat < 0x80) :
    (asciiLower c).toNat < 0x80 ∧ asciiLower (asciiLower c) = asciiLower c ∧
      (asciiUpper c).toNat < 0x80 ∧ asciiUpper (asciiUpper c) = asciiUpper c ∧
      asciiUpper (asciiLower (asciiUpper c)) = asciiUpper c ∧
      isBlank (asciiLower c) = isBlank c ∧ isBlank (asciiUpper c) = isBlank c := by
  refine forall_ascii (p := fun c => (asciiLower c).toNat < 0x80 ∧
    asciiLower (asciiLower c) = asciiLower c ∧ (asciiUpper c).toNat < 0x80 ∧
    asciiUpper (asciiUpper c) = asciiUpper c ∧
    asciiUpper (asciiLower (asciiUpper c)) = asciiUpper c ∧
    isBlank (asciiLower c) = isBlank c ∧ isBlank (asciiUpper c) = isBlank c) ?_ hc
  decide

theorem lowerChar_of_ascii {c : Char} (hc : c.toNat < 0x80) : lowerChar c = [asciiLower c] :=
  if_pos hc

theorem upperChar_of_ascii {c : Char} (hc : c.toNat < 0x80) : upperChar c = [asciiUpper c] :=
  if_pos hc

theorem isLower_of_unmoved {c : Char} (hdotted : c.toNat ≠ 0x130)
    (h : ∀ run ∈ CaseTable.lowerMoved, run.covers c.toNat = false) : IsLower c := by
  have hsigma : c.toNat ≠ 0x3A3 := CaseRun.covers_single_eq_false_iff.1 (h _ List.mem_cons_self)
  have hruns : ∀ run ∈ CaseTable.lowerRuns, run.covers c.toNat = false :=
    fun run hrun => h run (List.mem_cons_of_mem _ hrun)
  refine ⟨hsigma, ?_⟩
  by_cases hascii : c.toNat < 0x80
  · have hletters : CaseRun.covers ⟨0x41, 0x5A, 1, 32⟩ c.toNat = false :=
      hruns _ List.mem_cons_self
    have hkept : CaseRun.covers ⟨0x41, 0x5A, 1, 32⟩ c.toNat = false → asciiLower c = c := by
      refine forall_ascii (p := fun c => CaseRun.covers ⟨0x41, 0x5A, 1, 32⟩ c.toNat = false →
        asciiLower c = c) ?_ hascii
      decide
    rw [lowerChar_of_ascii hascii, hkept hletters]
  · simp [lowerChar, hascii, hdotted, CaseRun.find?_eq_none_iff.2 hruns]

theorem isUpper_of_unmoved {c : Char}
    (h : ∀ run ∈ CaseTable.upperMoved, run.covers c.toNat = false) : IsUpper c := by
  have hruns : ∀ run ∈ CaseTable.upperRuns, run.covers c.toNat = false :=
    fun run hrun => h run (List.mem_append_right _ hrun)
  unfold IsUpper
  by_cases hascii : c.toNat < 0x80
  · have hletters : CaseRun.covers ⟨0x61, 0x7A, 1, -32⟩ c.toNat = false :=
      hruns _ List.mem_cons_self
    have hkept : CaseRun.covers ⟨0x61, 0x7A, 1, -32⟩ c.toNat = false → asciiUpper c = c := by
      refine forall_ascii (p := fun c => CaseRun.covers ⟨0x61, 0x7A, 1, -32⟩ c.toNat = false →
        asciiUpper c = c) ?_ hascii
      decide
    rw [upperChar_of_ascii hascii, hkept hletters]
  · have hlookup : CaseTable.upperExpansions.lookup c.toNat = none := by
      refine List.lookup_eq_none_iff.2 (fun entry hentry => ?_)
      have hkey := h (.single entry.1) (List.mem_append_left _ (List.mem_map_of_mem hentry))
      simpa using CaseRun.covers_single_eq_false_iff.1 hkey
    simp [upperChar, hascii, hlookup, CaseRun.find?_eq_none_iff.2 hruns]

/-- A run that lands among characters that lower case does not move. -/
theorem CaseRun.Lands.isLower {run : CaseRun} (h : run.Lands CaseTable.lowerMoved) {n : Nat}
    (hn : run.covers n = true) : IsLower (Char.ofNat (run.image n)) := by
  have hcode := h.toNat_ofNat hn
  refine isLower_of_unmoved ?_ ?_
  · rw [hcode]
    exact h.image_ne_dotted hn
  · intro other hother
    rw [hcode]
    exact covers_image_of_misses h.stays hother hn

theorem CaseRun.Lands.isUpper {run : CaseRun} (h : run.Lands CaseTable.upperMoved) {n : Nat}
    (hn : run.covers n = true) : IsUpper (Char.ofNat (run.image n)) := by
  have hcode := h.toNat_ofNat hn
  refine isUpper_of_unmoved ?_
  intro other hother
  rw [hcode]
  exact covers_image_of_misses h.stays hother hn

/-- Capital sigma apart, every lower case is its own. -/
theorem isLower_of_mem_lowerChar {c d : Char} (hc : c.toNat ≠ 0x3A3) (h : d ∈ lowerChar c) :
    IsLower d := by
  cases lowerImage_of_mem h with
  | ascii hascii =>
      obtain ⟨hlower, htwice, -⟩ := ascii_cases hascii
      refine ⟨by omega, ?_⟩
      rw [lowerChar_of_ascii hlower, htwice]
  | dotted => exact ⟨by decide, by decide⟩
  | dot => exact ⟨by decide, by decide +kernel⟩
  | run hrun hcovers => exact (CaseTable.lands_of_mem_lowerRuns _ hrun).isLower hcovers
  | self hself => exact ⟨hc, hself⟩

/-- Every upper case is its own. -/
theorem isUpper_of_mem_upperChar {c d : Char} (h : d ∈ upperChar c) : IsUpper d := by
  cases upperImage_of_mem h with
  | ascii hascii =>
      obtain ⟨-, -, hupper, htwice, -⟩ := ascii_cases hascii
      unfold IsUpper
      rw [upperChar_of_ascii hupper, htwice]
  | @expansion n hn =>
      have hupper := (CaseTable.lands_of_mem_expansionCodes n hn).isUpper CaseRun.covers_single
      rwa [CaseRun.image_single] at hupper
  | run hrun hcovers => exact (CaseTable.lands_of_mem_upperRuns _ hrun).isUpper hcovers
  | self hself => exact hself

/-- Upper case that lower case moves back survives both. -/
theorem flatMap_upperChar_lowerChar {d : Char} (hd : IsUpper d) (hdotted : d.toNat ≠ 0x130)
    (h : ∀ run ∈ CaseTable.lowerRuns, run.covers d.toNat = true →
      upperChar (Char.ofNat (run.image d.toNat)) = [d]) :
    (lowerChar d).flatMap upperChar = [d] := by
  unfold lowerChar
  by_cases hascii : d.toNat < 0x80
  · obtain ⟨hlower, -, -, -, hreturn, -⟩ := ascii_cases hascii
    have hself : asciiUpper d = d := by
      have hsingle : [asciiUpper d] = [d] := (upperChar_of_ascii hascii).symm.trans hd
      exact (List.cons.inj hsingle).1
    rw [hself] at hreturn
    simp [hascii, upperChar_of_ascii hlower, hreturn]
  · simp only [hascii, hdotted, if_false]
    split
    · next n hfind =>
        rcases CaseRun.find?_eq_some hfind with ⟨run, hrun, hcovers, rfl⟩
        rw [(CaseTable.lands_of_mem_lowerRuns run hrun).charOr_eq hcovers]
        simpa using h run hrun hcovers
    · rw [List.flatMap_singleton]
      exact hd

/-- The upper case of what is in lower case survives being mapped to lower case and back. -/
theorem upperChar_lowerChar {c d : Char} (hc : IsLower c) (h : d ∈ upperChar c) :
    (lowerChar d).flatMap upperChar = [d] := by
  have hupper := isUpper_of_mem_upperChar h
  cases upperImage_of_mem h with
  | ascii hascii =>
      obtain ⟨-, -, hcode, -⟩ := ascii_cases hascii
      obtain ⟨hlower, -, -, -, -, -⟩ := ascii_cases hcode
      obtain ⟨-, -, -, -, hreturn, -⟩ := ascii_cases hascii
      rw [lowerChar_of_ascii hcode]
      simp [upperChar_of_ascii hlower, hreturn]
  | @expansion n hn =>
      have hlands := CaseTable.lands_of_mem_expansionCodes n hn
      have hcode : (Char.ofNat n).toNat = n := by
        simpa using hlands.toNat_ofNat CaseRun.covers_single
      refine flatMap_upperChar_lowerChar hupper ?_ ?_
      · rw [hcode]
        simpa using hlands.image_ne_dotted CaseRun.covers_single
      · intro run hrun hcovers
        rw [hcode] at hcovers ⊢
        have htest := CaseRun.of_meetsAll (CaseTable.expansionCodes_return n hn) hrun
          CaseRun.covers_single (by rwa [CaseRun.image_single])
        exact eq_of_beq htest
  | @run source hsource hsourceCovers hsingle =>
      have hlands := CaseTable.lands_of_mem_upperRuns source hsource
      have hcode := hlands.toNat_ofNat hsourceCovers
      refine flatMap_upperChar_lowerChar hupper ?_ ?_
      · rw [hcode]
        exact hlands.image_ne_dotted hsourceCovers
      · intro run hrun hcovers
        rw [hcode] at hcovers ⊢
        have htest := CaseRun.of_meetsAll (CaseTable.upperRuns_return source hsource) hrun
          hsourceCovers hcovers
        rcases Bool.or_eq_true_iff.1 htest with hback | hsame
        · -- The way back leads to the character itself.
          rw [eq_of_beq hback, Char.ofNat_toNat]
          exact hsingle
        · exact eq_of_beq hsame
  | self hself =>
      rw [hc.2]
      simpa using hself

/-! ## Blanks -/

theorem isBlank_of_mem_lowerChar {c d : Char} (hc : isBlank c = false) (h : d ∈ lowerChar c) :
    isBlank d = false := by
  cases lowerImage_of_mem h with
  | ascii hascii =>
      obtain ⟨-, -, -, -, -, hlower, -⟩ := ascii_cases hascii
      exact hlower.trans hc
  | dotted => decide
  | dot => decide
  | run hrun hcovers => exact (CaseTable.lands_of_mem_lowerRuns _ hrun).isBlank_image hcovers
  | self => exact hc

theorem isBlank_of_mem_upperChar {c d : Char} (hc : isBlank c = false) (h : d ∈ upperChar c) :
    isBlank d = false := by
  cases upperImage_of_mem h with
  | ascii hascii =>
      obtain ⟨-, -, -, -, -, -, hupper⟩ := ascii_cases hascii
      exact hupper.trans hc
  | @expansion n hn =>
      have hlands := CaseTable.lands_of_mem_expansionCodes n hn
      simpa using hlands.isBlank_image CaseRun.covers_single
  | run hrun hcovers => exact (CaseTable.lands_of_mem_upperRuns _ hrun).isBlank_image hcovers
  | self => exact hc

end Conform
