import Conform.Text.Ranges

/-!
# Automata for sets of characters

A pattern is compiled twice, once for reading a text forward and once for reading it backward.  The
automata read bytes, so a set of characters becomes sequences of byte ranges, one sequence for code
points that differ in their last bytes only.  Sequences share states: all of them where they begin
alike, and in the forward automaton also where they end alike.  This file defines:

* `digitRanges`: an interval of numbers as ranges for their digits at base 64;
* `Ranges.byteSequences`: the sequences of a set of code points;
* `ByteSequences.branches`: what the sequences go on with after their first ranges, and
  `ByteSequences.states` for all that is left of them anywhere;
* `Ranges.weight`: the bytes that an automaton takes for the set.
-/

namespace Conform

/-! ## Encodings -/

/-- Sequences of ranges that match the digits at base 64 of the numbers from `first` to `last`, with
`count` digits after the first one, which is not limited. -/
def digitRanges : (count : Nat) → (first last : Nat) → List (List (Nat × Nat))
  | 0, first, last => [[(first, last)]]
  | count + 1, first, last =>
    let block := 64 ^ (count + 1)
    let low := first / block
    let high := last / block
    let under := fun digit (sequences : List (List (Nat × Nat))) =>
      sequences.map ((digit, digit) :: ·)
    if low = high then under low (digitRanges count (first % block) (last % block))
    else
      -- Blocks that are covered in full go together; one at either end may be cut.
      let start := if first % block = 0 then low else low + 1
      let stop := if last % block = block - 1 then high + 1 else high
      (if first % block = 0 then []
        else under low (digitRanges count (first % block) (block - 1))) ++
      (if start < stop then [(start, stop - 1) :: List.replicate (count + 1) (0, 63)] else []) ++
      (if last % block = block - 1 then []
        else under high (digitRanges count 0 (last % block)))

/-- The code points whose encodings have the same number of bytes. -/
structure Utf8Block where
  first : Nat
  last : Nat
  /-- How many bytes follow the first one. -/
  count : Nat
  /-- What the first byte adds to its digit. -/
  mark : Nat
  deriving DecidableEq, Repr

/-- The blocks of all code points, in order. -/
def utf8Blocks : List Utf8Block :=
  [⟨0, 0x7F, 0, 0⟩, ⟨0x80, 0x7FF, 1, 0xC0⟩, ⟨0x800, 0xFFFF, 2, 0xE0⟩, ⟨0x10000, 0x10FFFF, 3, 0xF0⟩]

/-- Ranges for digits as ranges for bytes. -/
def Utf8Block.toBytes (block : Utf8Block) : List (Nat × Nat) → List (Nat × Nat)
  | [] => []
  | (first, last) :: rest =>
    (first + block.mark, last + block.mark) :: rest.map fun (a, b) => (a + 0x80, b + 0x80)

/-- Sequences of byte ranges. -/
abbrev ByteSequences := List (List (Nat × Nat))

/-- The sequences for the encodings of the code points in the ranges, in order. -/
def Ranges.byteSequences (ranges : Ranges) : ByteSequences :=
  ranges.flatMap fun (first, last) => utf8Blocks.flatMap fun block =>
    let first := max first block.first
    let last := min last block.last
    if first ≤ last then (digitRanges block.count first last).map block.toBytes else []

/-! ## States -/

namespace ByteSequences

/-- The rests of the sequences, one part for each of their first ranges. -/
def branches (sequences : ByteSequences) : List ByteSequences :=
  (sequences.splitBy fun p q => p.head? == q.head?).map (·.map List.tail)

/-- The sequences, and all that is left of them after some of their ranges, with nothing left out;
none is longer than `length`. -/
def states : (length : Nat) → ByteSequences → List ByteSequences
  | 0, _ => []
  | length + 1, sequences =>
    sequences :: sequences.branches.flatMap fun rest => if rest = [[]] then [] else states length rest

end ByteSequences

/-! ## Size -/

/-- The ways to read a text. -/
inductive Direction where
  | forward
  | backward
  deriving DecidableEq, Repr

/-- The bytes of a state on its own. -/
def stateSize : Nat := 32

/-- The bytes that a state adds for each byte range that it reads. -/
def transitionSize : Nat := 8

/-- The bytes that a state adds for each state that it goes to without reading. -/
def targetSize : Nat := 4

/-- The code points that are characters. -/
def Ranges.characters (ranges : Ranges) : Ranges := ranges.difference [(0xD800, 0xDFFF)]

/-- The bytes that an automaton takes for a set of characters. -/
def Ranges.weight (direction : Direction) (ranges : Ranges) : Nat :=
  let ranges := ranges.characters
  let sequences := ranges.byteSequences
  -- A lone character is a text of its own, and a set within ASCII is one state with an end.
  if ranges.length = 1 ∧ ranges.all (fun (first, last) => first == last) then
    stateSize * sequences.flatten.length
  else if ranges.all (·.2 < 0x80) then 2 * stateSize + transitionSize * ranges.length
  else
    let states := sequences.states 4
    match direction with
    | .forward =>
      states.eraseDups.foldl
        (fun size state => size + stateSize + transitionSize * state.branches.length) stateSize
    | .backward =>
      -- Each branch is a state, and one more state goes to the last branch of each sequence.
      states.foldl (fun size state => size + stateSize * state.branches.length)
        (2 * stateSize + targetSize * sequences.length)

end Conform
