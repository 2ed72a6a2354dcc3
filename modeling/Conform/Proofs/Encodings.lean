import Conform.Proofs.CodePoints
import Mathlib.Data.List.Forall2

/-!
# Encodings and byte sequences

An automaton reads a character as the bytes of its encoding, so the size of a set is counted on
sequences of byte ranges.  This file defines:

* `digits64`: the digits of a number at base 64, which the bytes of an encoding carry;
* `ByteSequences.Matches`: numbers that lie in the ranges of a sequence, place by place;
* `encoding`: the bytes of a character;

and proves:

* `matches_digitRanges`: the sequences for an interval match the digits of its members only;
* `encoding_eq_encode`: a character is encoded by its digits, marked as its block says;
* `Ranges.matches_byteSequences`: the sequences of ranges match the encodings of the characters in
  the ranges, and no others.
-/

namespace Conform

/-! ## Digits -/

/-- The digits of a number at base 64: `count` of them after the first one, which takes the rest. -/
def digits64 : (count : Nat) → Nat → List Nat
  | 0, n => [n]
  | count + 1, n => n / 64 ^ (count + 1) :: digits64 count (n % 64 ^ (count + 1))

theorem length_digits64 (count n : Nat) : (digits64 count n).length = count + 1 := by
  induction count generalizing n with
  | zero => rfl
  | succ count ih => rw [digits64, List.length_cons, ih]

/-- The numbers lie in the ranges of one of the sequences, each in the range at its place. -/
def ByteSequences.Matches (sequences : ByteSequences) (numbers : List Nat) : Prop :=
  ∃ sequence ∈ sequences,
    List.Forall₂ (fun range n => range.1 ≤ n ∧ n ≤ range.2) sequence numbers

namespace ByteSequences

@[simp] theorem matches_nil (numbers : List Nat) : ¬ Matches [] numbers := by
  rintro ⟨_, hmem, -⟩
  cases hmem

theorem matches_append (a b : ByteSequences) (numbers : List Nat) :
    Matches (a ++ b) numbers ↔ a.Matches numbers ∨ b.Matches numbers := by
  simp only [Matches, List.mem_append, or_and_right, exists_or]

theorem matches_flatMap {α : Type} (f : α → ByteSequences) (list : List α) (numbers : List Nat) :
    Matches (list.flatMap f) numbers ↔ ∃ a ∈ list, (f a).Matches numbers := by
  induction list with
  | nil => simp
  | cons a rest ih =>
      rw [List.flatMap_cons, matches_append, ih, List.exists_mem_cons_iff]

theorem matches_ite (p : Prop) [Decidable p] (a b : ByteSequences) (numbers : List Nat) :
    Matches (if p then a else b) numbers ↔ p ∧ a.Matches numbers ∨ ¬ p ∧ b.Matches numbers := by
  split <;> simp_all

theorem matches_map_cons (first last : Nat) (sequences : ByteSequences) (n : Nat)
    (numbers : List Nat) :
    Matches (sequences.map ((first, last) :: ·)) (n :: numbers) ↔
      (first ≤ n ∧ n ≤ last) ∧ sequences.Matches numbers := by
  constructor
  · rintro ⟨sequence, hmem, hmatches⟩
    obtain ⟨rest, hrest, rfl⟩ := List.mem_map.1 hmem
    obtain ⟨hn, hmatches⟩ := List.forall₂_cons.1 hmatches
    exact ⟨hn, rest, hrest, hmatches⟩
  · rintro ⟨hn, rest, hrest, hmatches⟩
    exact ⟨_, List.mem_map_of_mem hrest, List.forall₂_cons.2 ⟨hn, hmatches⟩⟩

theorem matches_singleton_cons (first last : Nat) (sequence : List (Nat × Nat)) (n : Nat)
    (numbers : List Nat) :
    Matches [(first, last) :: sequence] (n :: numbers) ↔
      (first ≤ n ∧ n ≤ last) ∧ Matches [sequence] numbers :=
  matches_map_cons first last [sequence] n numbers

/-- Ranges of all digits match all numbers that are not too long. -/
theorem matches_replicate {count n : Nat} (h : n < 64 ^ (count + 1)) :
    Matches [List.replicate (count + 1) (0, 63)] (digits64 count n) := by
  induction count generalizing n with
  | zero =>
      have hdigit : n ≤ 63 := by omega
      exact (matches_singleton_cons 0 63 [] n []).2
        ⟨⟨Nat.zero_le n, hdigit⟩, [], List.mem_cons_self, .nil⟩
  | succ count ih =>
      have hpos : 0 < 64 ^ (count + 1) := Nat.pow_pos (by decide)
      have hdigit : n / 64 ^ (count + 1) < 64 := by
        rwa [Nat.div_lt_iff_lt_mul hpos, Nat.mul_comm, ← Nat.pow_succ]
      rw [List.replicate_succ, digits64, matches_singleton_cons]
      exact ⟨⟨Nat.zero_le _, Nat.le_of_lt_succ hdigit⟩, ih (Nat.mod_lt _ hpos)⟩

end ByteSequences

theorem le_iff_div_mod (block a b : Nat) :
    a ≤ b ↔ a / block < b / block ∨ a / block = b / block ∧ a % block ≤ b % block := by
  have ha := Nat.div_add_mod a block
  have hb := Nat.div_add_mod b block
  rcases Nat.lt_trichotomy (a / block) (b / block) with hlt | heq | hgt
  · have := Nat.lt_of_div_lt_div hlt
    omega
  · rw [heq] at ha
    omega
  · have := Nat.lt_of_div_lt_div hgt
    omega

/-- The sequences for an interval match the digits of its members, and of no other number. -/
theorem matches_digitRanges {count first last n : Nat} (h : first ≤ last) :
    ByteSequences.Matches (digitRanges count first last) (digits64 count n) ↔
      first ≤ n ∧ n ≤ last := by
  induction count generalizing first last n with
  | zero =>
      rw [digitRanges, digits64, ByteSequences.matches_singleton_cons]
      exact and_iff_left ⟨[], List.mem_cons_self, .nil⟩
  | succ count ih =>
      have hblock : 0 < 64 ^ (count + 1) := Nat.pow_pos (by decide)
      have hn := Nat.mod_lt n hblock
      have hfull := ByteSequences.matches_replicate hn
      simp only [digitRanges, digits64]
      rw [le_iff_div_mod (64 ^ (count + 1)) first, le_iff_div_mod (64 ^ (count + 1)) n]
      rw [le_iff_div_mod (64 ^ (count + 1))] at h
      generalize 64 ^ (count + 1) = block at *
      have hfirst := Nat.mod_lt first hblock
      have hlast := Nat.mod_lt last hblock
      split
      · rename_i hsame
        rw [ByteSequences.matches_map_cons, ih (by omega)]
        omega
      · rename_i hcut
        simp only [ByteSequences.matches_append, ByteSequences.matches_ite,
          ByteSequences.matches_nil, ByteSequences.matches_map_cons,
          ByteSequences.matches_singleton_cons, hfull, and_true, and_false, or_false, false_or]
        rw [ih (by omega), ih (by omega)]
        -- What is left compares digits, whatever numbers they came from.
        generalize first / block = low at *
        generalize last / block = high at *
        generalize n / block = digit at *
        split <;> split <;> omega

/-! ## Encodings -/

/-- The bytes of a character. -/
def encoding (c : Char) : List Nat := (String.utf8EncodeChar c).map UInt8.toNat

namespace Utf8Block

/-- The bytes of a number that is given by its digits. -/
def encode (block : Utf8Block) : List Nat → List Nat
  | [] => []
  | digit :: rest => (digit + block.mark) :: rest.map (· + 0x80)

theorem matches_toBytes (block : Utf8Block) (sequences : ByteSequences) (digits : List Nat) :
    ByteSequences.Matches (sequences.map block.toBytes) (block.encode digits) ↔
      sequences.Matches digits := by
  have hsequence : ∀ sequence : List (Nat × Nat),
      List.Forall₂ (fun range n => range.1 ≤ n ∧ n ≤ range.2) (block.toBytes sequence)
          (block.encode digits) ↔
        List.Forall₂ (fun range n => range.1 ≤ n ∧ n ≤ range.2) sequence digits := by
    intro sequence
    cases sequence with
    | nil =>
        cases digits with
        | nil => rfl
        | cons digit others => exact iff_of_false nofun nofun
    | cons range rest =>
        cases digits with
        | nil => exact iff_of_false nofun nofun
        | cons digit others =>
            simp [toBytes, encode, List.forall₂_map_left_iff, List.forall₂_map_right_iff]
  constructor
  · rintro ⟨_, hmem, hmatches⟩
    obtain ⟨sequence, hsequences, rfl⟩ := List.mem_map.1 hmem
    exact ⟨sequence, hsequences, (hsequence sequence).1 hmatches⟩
  · rintro ⟨sequence, hsequences, hmatches⟩
    exact ⟨_, List.mem_map_of_mem hsequences, (hsequence sequence).2 hmatches⟩

theorem length_toBytes (block : Utf8Block) (sequence : List (Nat × Nat)) :
    (block.toBytes sequence).length = sequence.length := by
  cases sequence <;> simp [toBytes]

theorem length_encode (block : Utf8Block) (digits : List Nat) :
    (block.encode digits).length = digits.length := by
  cases digits <;> simp [encode]

end Utf8Block

/-- A character is encoded as its block says. -/
theorem encoding_eq_encode {block : Utf8Block} (hblock : block ∈ utf8Blocks) {c : Char}
    (hfirst : block.first ≤ c.toNat) (hlast : c.toNat ≤ block.last) :
    encoding c = block.encode (digits64 block.count c.toNat) := by
  have hvalue : c.val.toNat = c.toNat := rfl
  rw [encoding, String.utf8EncodeChar, hvalue]
  generalize c.toNat = n at *
  simp only [utf8Blocks, List.mem_cons, List.not_mem_nil, or_false] at hblock
  -- Below the limits of a block the remainders that keep its bytes in bounds change nothing.
  rcases hblock with rfl | rfl | rfl | rfl
  all_goals simp only at hfirst hlast
  · rw [if_pos hlast]
    simp only [List.map_cons, List.map_nil, UInt8.toNat_ofNat', digits64, Utf8Block.encode,
      List.cons.injEq, and_true]
    omega
  · rw [if_neg (Nat.not_le.2 hfirst), if_pos hlast]
    simp only [List.map_cons, List.map_nil, UInt8.toNat_ofNat', digits64, Utf8Block.encode,
      List.cons.injEq, and_true]
    omega
  · rw [if_neg (by omega), if_neg (Nat.not_le.2 hfirst), if_pos hlast]
    simp only [List.map_cons, List.map_nil, UInt8.toNat_ofNat', digits64, Utf8Block.encode,
      List.cons.injEq, and_true]
    omega
  · rw [if_neg (by omega), if_neg (by omega), if_neg (Nat.not_le.2 hfirst)]
    simp only [List.map_cons, List.map_nil, UInt8.toNat_ofNat', digits64, Utf8Block.encode,
      List.cons.injEq, and_true]
    omega

theorem exists_utf8Block (c : Char) :
    ∃ block ∈ utf8Blocks, block.first ≤ c.toNat ∧ c.toNat ≤ block.last := by
  have hc := toNat_le_lastCodePoint c
  unfold Ranges.lastCodePoint at hc
  simp only [utf8Blocks, List.exists_mem_cons_iff, List.not_mem_nil, false_and, exists_false,
    or_false]
  omega

theorem length_of_mem_digitRanges {count first last : Nat} {sequence : List (Nat × Nat)}
    (h : sequence ∈ digitRanges count first last) : sequence.length = count + 1 := by
  induction count generalizing first last sequence with
  | zero => rw [List.mem_singleton.1 h, List.length_singleton]
  | succ count ih =>
      have hunder : ∀ {digit a b : Nat},
          sequence ∈ (digitRanges count a b).map ((digit, digit) :: ·) →
          sequence.length = count + 1 + 1 := by
        intro digit a b hmem
        obtain ⟨rest, hrest, rfl⟩ := List.mem_map.1 hmem
        rw [List.length_cons, ih hrest]
      simp only [digitRanges] at h
      split at h
      · exact hunder h
      · simp only [List.mem_append, List.mem_ite_nil_left, List.mem_ite_nil_right,
          List.mem_singleton] at h
        rcases h with (⟨-, h⟩ | ⟨-, rfl⟩) | ⟨-, h⟩
        · exact hunder h
        · rw [List.length_cons, List.length_replicate]
        · exact hunder h

theorem eq_of_count_eq : ∀ block ∈ utf8Blocks, ∀ other ∈ utf8Blocks,
    block.count = other.count → block = other := by decide

theorem eq_or_apart : ∀ block ∈ utf8Blocks, ∀ other ∈ utf8Blocks,
    block = other ∨ block.last < other.first ∨ other.last < block.first := by decide

/-- Sequences for a part of a block match the encodings of its characters, and no others: those of
another block differ in length. -/
theorem Utf8Block.matches_digitRanges {block : Utf8Block} (hblock : block ∈ utf8Blocks)
    {first last : Nat} (hle : first ≤ last) (hfirst : block.first ≤ first)
    (hlast : last ≤ block.last) (c : Char) :
    ByteSequences.Matches ((digitRanges block.count first last).map block.toBytes) (encoding c) ↔
      first ≤ c.toNat ∧ c.toNat ≤ last := by
  obtain ⟨own, hown, hfrom, hto⟩ := exists_utf8Block c
  rw [encoding_eq_encode hown hfrom hto]
  by_cases hsame : block = own
  · rw [← hsame, matches_toBytes, Conform.matches_digitRanges hle]
  · refine iff_of_false ?_ ?_
    · rintro ⟨_, hmem, hmatches⟩
      obtain ⟨sequence, hsequence, rfl⟩ := List.mem_map.1 hmem
      have hlength := hmatches.length_eq
      rw [length_toBytes, length_encode, length_of_mem_digitRanges hsequence,
        length_digits64] at hlength
      exact hsame (eq_of_count_eq block hblock own hown (Nat.succ.inj hlength))
    · rcases eq_or_apart block hblock own hown with heq | hbelow | habove
      · exact absurd heq hsame
      · omega
      · omega

/-- The byte sequences of ranges match the encodings of the characters in the ranges, and no
others. -/
theorem Ranges.matches_byteSequences (ranges : Ranges) (c : Char) :
    ranges.byteSequences.Matches (encoding c) ↔ ranges.contains c.toNat = true := by
  rw [byteSequences, ByteSequences.matches_flatMap, contains, List.any_eq_true]
  refine exists_congr fun range => and_congr_right fun _ => ?_
  obtain ⟨first, last⟩ := range
  rw [ByteSequences.matches_flatMap, Bool.and_eq_true, decide_eq_true_eq, decide_eq_true_eq]
  constructor
  · rintro ⟨block, hblock, hmatches⟩
    rw [ByteSequences.matches_ite] at hmatches
    obtain ⟨hle, hmatches⟩ | ⟨-, hmatches⟩ := hmatches
    · rw [Utf8Block.matches_digitRanges hblock hle (Nat.le_max_right _ _)
        (Nat.min_le_right _ _)] at hmatches
      omega
    · exact absurd hmatches (ByteSequences.matches_nil _)
  · rintro ⟨hfirst, hlast⟩
    obtain ⟨block, hblock, hfrom, hto⟩ := exists_utf8Block c
    have hle : max first block.first ≤ min last block.last := by omega
    refine ⟨block, hblock, ?_⟩
    rw [ByteSequences.matches_ite]
    refine Or.inl ⟨hle, (Utf8Block.matches_digitRanges hblock hle (Nat.le_max_right _ _)
      (Nat.min_le_right _ _) c).2 ?_⟩
    omega

end Conform
