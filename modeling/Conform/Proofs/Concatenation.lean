import Conform.Proofs.Paths

/-!
# Paths in parts

A point and a pair of brackets cut a path into parts that are read on their own, whatever the parts
are, as long as no bracket stays open before the cut.  This file defines:

* `Path.ClosesBrackets`: after every opening bracket of a path there is a closing one;
* `IsNumeral` and `DenotesIndex`: the texts that are read as item numbers;
* `BracketStep`: the step that a text between brackets stands for;
* `Path.written`: the text of steps, put together from the front.

The main statement is `tokenize_append`.
-/

namespace Conform

/-! ## Brackets that are closed -/

/-- A bracket after which none is closed leaves every scan inside. -/
theorem endsInBracket_open {rest : List Char} (h : ']' ∉ rest) (inside : Bool) :
    endsInBracket inside ('[' :: rest) = true := by
  have hrest := endsInBracket_true_of_not_mem h
  cases inside with
  | false => exact hrest
  | true => exact hrest

/-- A scan ends inside when no bracket is closed after the last one that was opened. -/
theorem exists_open_of_endsInBracket {text : List Char} {inside : Bool}
    (h : endsInBracket inside text = true) :
    inside = true ∧ ']' ∉ text ∨ ∃ front rest, text = front ++ '[' :: rest ∧ ']' ∉ rest := by
  induction text generalizing inside with
  | nil => exact Or.inl ⟨h, List.not_mem_nil⟩
  | cons c text ih =>
      -- Where the rest of the text ends inside on its own account, `c` belongs to the front.
      have hlater : (∃ front rest, text = front ++ '[' :: rest ∧ ']' ∉ rest) →
          ∃ front rest, c :: text = front ++ '[' :: rest ∧ ']' ∉ rest := by
        rintro ⟨front, rest, rfl, hrest⟩
        exact ⟨c :: front, rest, rfl, hrest⟩
      cases inside with
      | false =>
          rcases ih h with ⟨hopen, htext⟩ | hfound
          · obtain rfl : c = '[' := by simpa using hopen
            exact Or.inr ⟨[], text, rfl, htext⟩
          · exact Or.inr (hlater hfound)
      | true =>
          rcases ih h with ⟨hopen, htext⟩ | hfound
          · have hc : c ≠ ']' := by simpa using hopen
            exact Or.inl ⟨rfl, List.not_mem_cons_of_ne_of_not_mem hc.symm htext⟩
          · exact Or.inr (hlater hfound)

namespace Path

/-- After every opening bracket of a path there is a closing one. -/
def ClosesBrackets (path : String) : Prop :=
  ∀ front rest, path.toList = front ++ '[' :: rest → ']' ∈ rest

theorem closed_iff_closesBrackets {path : String} : Closed path ↔ ClosesBrackets path := by
  constructor
  · intro hclosed front rest hpath
    by_contra hrest
    rw [Closed, hpath, endsInBracket_append, endsInBracket_open hrest] at hclosed
    exact Bool.noConfusion hclosed
  · intro hcloses
    by_contra hopen
    have hinside : endsInBracket false path.toList = true := by simpa [Closed] using hopen
    rcases exists_open_of_endsInBracket hinside with ⟨hfalse, -⟩ | ⟨front, rest, hpath, hrest⟩
    · exact Bool.noConfusion hfalse
    · exact hrest (hcloses front rest hpath)

end Path

/-! ## Item numbers -/

/-- Decimal digits, at least one, and the number that they are. -/
def IsNumeral (digits : List Char) (n : Nat) : Prop :=
  digits ≠ [] ∧ (∀ c ∈ digits, c.isDigit) ∧ Nat.ofDigitChars 10 digits 0 = n

/-- A text that is read as an item number: digits after at most a plus sign, of at most 64 bits. -/
def DenotesIndex (text : List Char) (n : Nat) : Prop :=
  (∃ digits, (text = digits ∨ text = '+' :: digits) ∧ IsNumeral digits n) ∧ n < 2 ^ 64

theorem isDigit_of_digit? {c : Char} {d : Nat} (h : digit? c = some d) : c.isDigit := by
  unfold digit? at h
  split at h
  · next hrange =>
      rw [Char.isDigit, Bool.and_eq_true, decide_eq_true_eq, decide_eq_true_eq]
      exact ⟨Char.le_def.1 hrange.1, Char.le_def.1 hrange.2⟩
  · cases h

theorem isDigit_of_readNat? {text : List Char} {seen : Option Nat} {n : Nat}
    (h : readNat? text seen = some n) : ∀ c ∈ text, c.isDigit := by
  induction text generalizing seen with
  | nil => exact fun c hc => absurd hc List.not_mem_nil
  | cons c rest ih =>
      cases hdigit : digit? c with
      | none => simp [readNat?, hdigit] at h
      | some d =>
          simp only [readNat?, hdigit] at h
          exact List.forall_mem_cons.2 ⟨isDigit_of_digit? hdigit, ih h⟩

theorem readNat?_eq_some_iff {text : List Char} {n : Nat} :
    readNat? text none = some n ↔ IsNumeral text n := by
  constructor
  · intro h
    have hne : text ≠ [] := by
      rintro rfl
      cases h
    have hdigits := isDigit_of_readNat? h
    rw [readNat?_none_digits hne hdigits] at h
    exact ⟨hne, hdigits, Option.some.inj h⟩
  · rintro ⟨hne, hdigits, rfl⟩
    exact readNat?_none_digits hne hdigits

/-- What the digits after at most a plus sign are is kept when it has at most 64 bits. -/
theorem exists_readIndex?_eq (text : List Char) :
    ∃ digits, (text = digits ∧ (∀ rest, text ≠ '+' :: rest) ∨ text = '+' :: digits) ∧
      readIndex? text = (readNat? digits none).filter (fun n => decide (n < 2 ^ 64)) := by
  unfold readIndex?
  split
  next digits =>
    refine ⟨digits, Or.inr rfl, ?_⟩
    simp only
    cases readNat? digits none with
    | none => rfl
    | some n => simp only [Option.filter_some, decide_eq_true_eq]
  next hplus =>
    refine ⟨text, Or.inl ⟨rfl, hplus⟩, ?_⟩
    simp only
    cases readNat? text none with
    | none => rfl
    | some n => simp only [Option.filter_some, decide_eq_true_eq]

theorem readIndex?_eq_some_iff {text : List Char} {n : Nat} :
    readIndex? text = some n ↔ DenotesIndex text n := by
  obtain ⟨digits, hform, hread⟩ := exists_readIndex?_eq text
  rw [hread, Option.filter_eq_some_iff, decide_eq_true_eq, readNat?_eq_some_iff, DenotesIndex]
  refine and_congr_left fun _ => ?_
  constructor
  · intro hnumeral
    exact ⟨digits, hform.imp And.left id, hnumeral⟩
  · rintro ⟨other, hother, hnumeral⟩
    -- A plus sign is no digit, so a text has only one part that can be its digits.
    rcases hform with ⟨rfl, hplus⟩ | rfl
    · rcases hother with rfl | hsigned
      · exact hnumeral
      · exact absurd hsigned (hplus other)
    · rcases hother with rfl | hsigned
      · exact absurd (hnumeral.2.1 '+' List.mem_cons_self) (by decide)
      · cases hsigned
        exact hnumeral

/-- The step that a text between brackets stands for: an item where it is read as an item number,
and otherwise the member of that name. -/
inductive BracketStep (text : String) : Segment → Prop
  | item {n : Nat} (h : DenotesIndex text.toList n) : BracketStep text (.index n)
  | member (h : ∀ n, ¬ DenotesIndex text.toList n) : BracketStep text (.key text)

theorem bracketStep_bracketed (text : String) : BracketStep text (bracketed text.toList) := by
  unfold bracketed
  cases hread : readIndex? text.toList with
  | some n => exact .item (readIndex?_eq_some_iff.1 hread)
  | none =>
      simp only [String.ofList_toList]
      refine .member fun n hdenotes => ?_
      rw [readIndex?_eq_some_iff.2 hdenotes] at hread
      cases hread

/-! ## Written steps -/

namespace Path

/-- The text of steps that stand after others: a point before every name, item numbers in
brackets. -/
def joined : List Segment → String
  | [] => ""
  | .key name :: rest => "." ++ name ++ joined rest
  | .index position :: rest => "[" ++ toString position ++ "]" ++ joined rest

/-- The text of steps: no point stands before the first of them. -/
def written : List Segment → String
  | [] => ""
  | .key name :: rest => name ++ joined rest
  | .index position :: rest => joined (.index position :: rest)

theorem item_eq (path : String) (position : Nat) :
    item path position = path ++ "[" ++ toString position ++ "]" := by
  rw [item, Nat.toString_eq_ofList_toDigits]

/-- Steps that extend a path which is not empty are joined to it. -/
theorem foldl_extend_eq_joined {path : String} (h : path ≠ "") (steps : List Segment) :
    steps.foldl extend path = path ++ joined steps := by
  induction steps generalizing path with
  | nil => simp [joined]
  | cons step rest ih =>
      cases step with
      | key name =>
          have hchild : extend path (.key name) = path ++ "." ++ name := by
            simp [extend, child, h]
          have hne : path ++ "." ++ name ≠ "" := by simp
          rw [List.foldl_cons, hchild, ih hne, joined]
          simp only [String.append_assoc]
      | index position =>
          have hitem : extend path (.index position) = path ++ "[" ++ toString position ++ "]" :=
            item_eq path position
          have hne : path ++ "[" ++ toString position ++ "]" ≠ "" := by simp
          rw [List.foldl_cons, hitem, ih hne, joined]
          simp only [String.append_assoc]

/-- Plain steps that extend the empty path one by one are written in one go. -/
theorem render_eq_written {steps : List Segment} (h : ∀ step ∈ steps, step.IsPlain) :
    render steps = written steps := by
  cases steps with
  | nil => rfl
  | cons step rest =>
      cases step with
      | key name =>
          have hne : name ≠ "" := (h _ List.mem_cons_self).1
          exact foldl_extend_eq_joined hne rest
      | index position =>
          have hitem : extend "" (.index position) = "[" ++ toString position ++ "]" := by
            rw [extend, item_eq, String.empty_append]
          have hne : "[" ++ toString position ++ "]" ≠ "" := by simp
          rw [render, List.foldl_cons, hitem, foldl_extend_eq_joined hne, written, joined]

end Path

/-- Plain steps are read one by one after a closed path to which they are joined. -/
theorem tokenize_append_joined {path : String} (hpath : Path.Closed path) {steps : List Segment}
    (h : ∀ step ∈ steps, step.IsPlain) :
    tokenize (path ++ Path.joined steps) = tokenize path ++ steps := by
  -- Every step is cut off from the rest, which is read on its own: the induction is on the steps,
  -- for every closed path before them.
  induction steps generalizing path with
  | nil => simp [Path.joined]
  | cons step rest ih =>
      obtain ⟨hstep, hrest⟩ := List.forall_mem_cons.1 h
      cases step with
      | key name =>
          have hclosed : Path.Closed name := endsInBracket_of_not_mem hstep.2.2
          calc
            tokenize (path ++ Path.joined (.key name :: rest))
                = tokenize (path ++ "." ++ (name ++ Path.joined rest)) := by
                  simp only [Path.joined, String.append_assoc]
            _ = tokenize path ++ tokenize (name ++ Path.joined rest) :=
                  tokenize_append_point hpath _
            _ = tokenize path ++ ([.key name] ++ rest) := by
                  rw [ih hclosed hrest, tokenize_plainName hstep]
            _ = tokenize path ++ .key name :: rest := rfl
      | index position =>
          have hdigits : (toString position).toList = Nat.toDigits 10 position := by
            rw [Nat.toString_eq_ofList_toDigits, String.toList_ofList]
          have hclose : ']' ∉ (toString position).toList := by
            rw [hdigits]
            exact not_mem_toDigits (by decide) position
          calc
            tokenize (path ++ Path.joined (.index position :: rest))
                = tokenize (path ++ "[" ++ toString position ++ "]" ++ Path.joined rest) := by
                  simp only [Path.joined, String.append_assoc]
            _ = tokenize path ++ [bracketed (toString position).toList] ++
                  tokenize (Path.joined rest) := tokenize_append_brackets_append hpath hclose _
            _ = tokenize path ++ [.index position] ++ rest := by
                  have hjoined := ih Path.closed_empty hrest
                  rw [String.empty_append] at hjoined
                  rw [hdigits, bracketed_toDigits hstep, hjoined]
                  rfl
            _ = tokenize path ++ .index position :: rest := by simp

theorem tokenize_written {steps : List Segment} (h : ∀ step ∈ steps, step.IsPlain) :
    tokenize (Path.written steps) = steps := by
  have hempty := tokenize_append_joined Path.closed_empty h
  rw [String.empty_append] at hempty
  cases steps with
  | nil => exact hempty
  | cons step rest =>
      cases step with
      | key name =>
          obtain ⟨hname, hrest⟩ := List.forall_mem_cons.1 h
          have hclosed : Path.Closed name := endsInBracket_of_not_mem hname.2.2
          rw [Path.written, tokenize_append_joined hclosed hrest, tokenize_plainName hname]
          rfl
      | index position => exact hempty

/-- A path in which every bracket is closed is read apart from what a point or a pair of brackets
joins to it, and the brackets are read as one step.  So steps whose names hold no punctuation are
read back from their text, which is what is written for them step by step. -/
theorem tokenize_append :
    (∀ path more : String, Path.ClosesBrackets path →
        tokenize (path ++ "." ++ more) = tokenize path ++ tokenize more) ∧
      (∀ path contents more : String, Path.ClosesBrackets path → ']' ∉ contents.toList →
        ∃ step, BracketStep contents step ∧
          tokenize (path ++ "[" ++ contents ++ "]" ++ more) =
            tokenize path ++ [step] ++ tokenize more) ∧
      ∀ steps : List Segment, (∀ step ∈ steps, step.IsPlain) →
        tokenize (Path.written steps) = steps ∧ Path.render steps = Path.written steps := by
  refine ⟨?_, ?_, ?_⟩
  · intro path more hpath
    exact tokenize_append_point (Path.closed_iff_closesBrackets.2 hpath) more
  · intro path contents more hpath hcontents
    have hclosed := Path.closed_iff_closesBrackets.2 hpath
    exact ⟨_, bracketStep_bracketed contents,
      tokenize_append_brackets_append hclosed hcontents more⟩
  · intro steps hsteps
    exact ⟨tokenize_written hsteps, Path.render_eq_written hsteps⟩

theorem tokenize_append_rows :
    Path.ClosesBrackets "rows[[]" ∧
      tokenize ("rows[[]" ++ "." ++ "a..b[1") =
        [.key "rows", .key "["] ++ [.key "a", .key "b", .index 1] ∧
      (∃ step, BracketStep "+07" step ∧
        tokenize ("rows[[]" ++ "[" ++ "+07" ++ "]" ++ "[x") =
          [.key "rows", .key "["] ++ [step] ++ [.key "x"]) ∧
      Path.written [.key "rows", .index 12, .key "a]b"] = "rows[12].a]b" ∧
      tokenize "rows[12].a]b" = [.key "rows", .index 12, .key "a]b"] := by
  obtain ⟨hpoint, hbrackets, hsteps⟩ := tokenize_append
  have hclosed : Path.ClosesBrackets "rows[[]" := Path.closed_iff_closesBrackets.1 rfl
  have hplain : ∀ step ∈ [Segment.key "rows", .index 12, .key "a]b"], step.IsPlain := by
    simp [Segment.IsPlain, IsPlainName]
  have hwritten : Path.written [.key "rows", .index 12, .key "a]b"] = "rows[12].a]b" := by decide
  have hread := (hsteps _ hplain).1
  rw [hwritten] at hread
  exact ⟨hclosed, hpoint _ _ hclosed, hbrackets _ _ _ hclosed (by decide), hwritten, hread⟩

end Conform
