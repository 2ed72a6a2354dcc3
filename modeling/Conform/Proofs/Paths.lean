import Conform.Path
import Mathlib.Data.List.Basic

/-!
# Reading written paths

A written path is read back as the steps it was written from, as long as no member name could be
taken for punctuation.  This file defines:

* `endsInBracket` and `Path.Closed`: whether a text leaves a bracket open;
* `IsPlainName` and `Segment.IsPlain`: the steps that a written path can hold;
* `PathScan.next` and `PathScan.ended`: what one character does to a scan;

and proves that a point or a pair of brackets after a closed path cuts it off from what follows.  So
reading commutes with extending a closed path by a plain step, and plain steps are read back from
what is written for them: `tokenize_render`.
-/

namespace Conform

/-! ## Open brackets -/

/-- Whether the reading of a text that starts inside or outside of brackets ends inside. -/
def endsInBracket : (inside : Bool) → List Char → Bool
  | inside, [] => inside
  | false, c :: rest => endsInBracket (c == '[') rest
  | true, c :: rest => endsInBracket (c != ']') rest

theorem endsInBracket_append (first second : List Char) (inside : Bool) :
    endsInBracket inside (first ++ second) = endsInBracket (endsInBracket inside first) second := by
  induction first generalizing inside with
  | nil => rfl
  | cons c rest ih =>
      cases inside with
      | false => exact ih (c == '[')
      | true => exact ih (c != ']')

theorem endsInBracket_cons_of_ne_open {c : Char} (h : c ≠ '[') (rest : List Char) :
    endsInBracket false (c :: rest) = endsInBracket false rest := by
  have hc : (c == '[') = false := by simpa using h
  simp [endsInBracket, hc]

theorem endsInBracket_cons_of_ne_close {c : Char} (h : c ≠ ']') (rest : List Char) :
    endsInBracket true (c :: rest) = endsInBracket true rest := by
  have hc : (c != ']') = true := by simpa using h
  simp [endsInBracket, hc]

/-- A text without an opening bracket opens none. -/
theorem endsInBracket_of_not_mem {text : List Char} (h : '[' ∉ text) :
    endsInBracket false text = false := by
  induction text with
  | nil => rfl
  | cons c rest ih =>
      have hc : c ≠ '[' := fun heq => h (heq ▸ List.mem_cons_self)
      rw [endsInBracket_cons_of_ne_open hc]
      exact ih (fun hmem => h (List.mem_cons_of_mem c hmem))

/-- Contents without a closing bracket leave the bracket around them open. -/
theorem endsInBracket_true_of_not_mem {text : List Char} (h : ']' ∉ text) :
    endsInBracket true text = true := by
  induction text with
  | nil => rfl
  | cons c rest ih =>
      have hc : c ≠ ']' := fun heq => h (heq ▸ List.mem_cons_self)
      rw [endsInBracket_cons_of_ne_close hc]
      exact ih (fun hmem => h (List.mem_cons_of_mem c hmem))

/-- A path in which every bracket that is opened is closed. -/
def Path.Closed (path : String) : Prop := endsInBracket false path.toList = false

theorem Path.closed_empty : Path.Closed "" := rfl

/-! ## Plain steps -/

/-- A name that is not taken for punctuation where it stands in a path. -/
def IsPlainName (name : String) : Prop := name ≠ "" ∧ '.' ∉ name.toList ∧ '[' ∉ name.toList

instance (name : String) : Decidable (IsPlainName name) :=
  inferInstanceAs (Decidable (_ ∧ _ ∧ _))

/-- A step that a written path can hold. -/
def Segment.IsPlain : Segment → Prop
  | .key name => IsPlainName name
  | .index position => position < 2 ^ 64

/-! ## Scanning in parts -/

namespace PathScan

/-- Whether a scan stands inside brackets. -/
def isInBracket : PathScan → Bool
  | .inBracket _ => true
  | .between | .inKey _ => false

/-- Where a scan stands after one more character. -/
def next : PathScan → Char → PathScan
  | .between, c => if c = '.' then .between else if c = '[' then .inBracket [] else .inKey [c]
  | .inKey seen, c =>
    if c = '.' then .between else if c = '[' then .inBracket [] else .inKey (c :: seen)
  | .inBracket seen, c => if c = ']' then .between else .inBracket (c :: seen)

/-- The step that ends at a character, if one does. -/
def ended : PathScan → Char → List Segment
  | .between, _ => []
  | .inKey seen, c => if c = '.' ∨ c = '[' then [.key (String.ofList seen.reverse)] else []
  | .inBracket seen, c => if c = ']' then [bracketed seen.reverse] else []

/-- A scan follows the brackets of the text. -/
theorem endsInBracket_next (scan : PathScan) (c : Char) (text : List Char) :
    endsInBracket scan.isInBracket (c :: text) = endsInBracket (scan.next c).isInBracket text := by
  cases scan with
  | between | inKey seen =>
      by_cases hdot : c = '.'
      · simp [endsInBracket, isInBracket, next, hdot]
      · by_cases hbracket : c = '['
        · simp [endsInBracket, isInBracket, next, hbracket]
        · have hrest := endsInBracket_cons_of_ne_open hbracket text
          simpa [isInBracket, next, hdot, hbracket] using hrest
  | inBracket seen =>
      by_cases hclose : c = ']'
      · simp [endsInBracket, isInBracket, next, hclose]
      · have hrest := endsInBracket_cons_of_ne_close hclose text
        simpa [isInBracket, next, hclose] using hrest

end PathScan

/-- One character ends at most one step, and the rest is read from where the scan then stands. -/
theorem scanPath_cons (scan : PathScan) (c : Char) (rest : List Char) :
    scanPath scan (c :: rest) = scan.ended c ++ scanPath (scan.next c) rest := by
  cases scan with
  | between | inKey seen =>
      by_cases hdot : c = '.'
      · simp [scanPath, PathScan.ended, PathScan.next, hdot]
      · by_cases hbracket : c = '[' <;>
          simp [scanPath, PathScan.ended, PathScan.next, hdot, hbracket]
  | inBracket seen =>
      by_cases hclose : c = ']' <;> simp [scanPath, PathScan.ended, PathScan.next, hclose]

/-- A point or an opening bracket outside of brackets ends what was being read before it. -/
theorem scanPath_append_separator {c : Char} (hc : c = '.' ∨ c = '[') (rest : List Char)
    {text : List Char} {scan : PathScan} (h : endsInBracket scan.isInBracket text = false) :
    scanPath scan (text ++ c :: rest) = scanPath scan text ++ scanPath .between (c :: rest) := by
  -- The induction is on the text, for every scan that stands outside of brackets at its end.
  induction text generalizing scan with
  | nil =>
      cases scan with
      | between => rfl
      | inKey seen => rcases hc with rfl | rfl <;> simp [scanPath]
      | inBracket seen => simp [endsInBracket, PathScan.isInBracket] at h
  | cons d text ih =>
      rw [scan.endsInBracket_next] at h
      calc
        scanPath scan (d :: text ++ c :: rest)
            = scan.ended d ++ scanPath (scan.next d) (text ++ c :: rest) := scanPath_cons scan d _
        _ = scan.ended d ++ (scanPath (scan.next d) text ++ scanPath .between (c :: rest)) := by
              rw [ih h]
        _ = scanPath scan (d :: text) ++ scanPath .between (c :: rest) := by
              rw [scanPath_cons scan d, List.append_assoc]

/-- A name is read to its end. -/
theorem scanPath_inKey_name {name : List Char} (hdot : '.' ∉ name) (hbracket : '[' ∉ name)
    (seen : List Char) :
    scanPath (.inKey seen) name = [.key (String.ofList (seen.reverse ++ name))] := by
  induction name generalizing seen with
  | nil => simp [scanPath]
  | cons c rest ih =>
      have hc : c ≠ '.' := fun heq => hdot (heq ▸ List.mem_cons_self)
      have hc' : c ≠ '[' := fun heq => hbracket (heq ▸ List.mem_cons_self)
      have hrest := ih (fun hmem => hdot (List.mem_cons_of_mem c hmem))
        (fun hmem => hbracket (List.mem_cons_of_mem c hmem)) (c :: seen)
      simpa [scanPath, hc, hc'] using hrest

/-- The contents of brackets are read up to the closing one. -/
theorem scanPath_inBracket_closed {contents : List Char} (h : ']' ∉ contents)
    (seen rest : List Char) :
    scanPath (.inBracket seen) (contents ++ ']' :: rest) =
      bracketed (seen.reverse ++ contents) :: scanPath .between rest := by
  induction contents generalizing seen with
  | nil => simp [scanPath]
  | cons c contents ih =>
      have hc : c ≠ ']' := fun heq => h (heq ▸ List.mem_cons_self)
      have hrest := ih (fun hmem => h (List.mem_cons_of_mem c hmem)) (c :: seen)
      simpa [scanPath, hc] using hrest

theorem tokenize_plainName {name : String} (h : IsPlainName name) :
    tokenize name = [.key name] := by
  rcases h with ⟨hne, hdot, hbracket⟩
  unfold tokenize
  cases hname : name.toList with
  | nil => exact absurd (String.toList_eq_nil_iff.1 hname) hne
  | cons c rest =>
      rw [hname] at hdot hbracket
      have hc : c ≠ '.' := fun heq => hdot (heq ▸ List.mem_cons_self)
      have hc' : c ≠ '[' := fun heq => hbracket (heq ▸ List.mem_cons_self)
      have hrest := scanPath_inKey_name (fun hmem => hdot (List.mem_cons_of_mem c hmem))
        (fun hmem => hbracket (List.mem_cons_of_mem c hmem)) [c]
      have hback : String.ofList (c :: rest) = name := by rw [← hname, String.ofList_toList]
      simpa [scanPath, hc, hc', hback] using hrest

/-! ## Item numbers -/

theorem digit?_of_isDigit {c : Char} (h : c.isDigit) : digit? c = some (c.toNat - '0'.toNat) := by
  have hrange : '0' ≤ c ∧ c ≤ '9' := by
    simp only [Char.isDigit, Bool.and_eq_true, decide_eq_true_eq] at h
    exact ⟨Char.le_def.2 h.1, Char.le_def.2 h.2⟩
  unfold digit?
  rw [if_pos hrange]

/-- Digits after digits extend the number read so far. -/
theorem readNat?_some_digits {text : List Char} (h : ∀ c ∈ text, c.isDigit) (seen : Nat) :
    readNat? text (some seen) = some (Nat.ofDigitChars 10 text seen) := by
  induction text generalizing seen with
  | nil => simp [readNat?]
  | cons c rest ih =>
      have hdigit := digit?_of_isDigit (h c List.mem_cons_self)
      have hrest := ih (fun d hd => h d (List.mem_cons_of_mem c hd))
        (seen * 10 + (c.toNat - '0'.toNat))
      rw [Nat.ofDigitChars_cons, Nat.mul_comm 10 seen]
      simpa only [readNat?, hdigit, Option.getD_some] using hrest

theorem readNat?_none_digits {text : List Char} (hne : text ≠ []) (h : ∀ c ∈ text, c.isDigit) :
    readNat? text none = some (Nat.ofDigitChars 10 text 0) := by
  -- The first digit is read after nothing as it is read after zero.
  rw [← readNat?_some_digits h 0]
  cases text with
  | nil => exact absurd rfl hne
  | cons c rest => simp [readNat?]

theorem isDigit_toDigits {position : Nat} {c : Char} (h : c ∈ Nat.toDigits 10 position) :
    c.isDigit :=
  Nat.isDigit_of_mem_toDigits (by decide) (by decide) h

theorem not_mem_toDigits {c : Char} (h : c.isDigit = false) (position : Nat) :
    c ∉ Nat.toDigits 10 position := by
  intro hmem
  have hc := isDigit_toDigits hmem
  rw [h] at hc
  exact Bool.noConfusion hc

/-- The decimal digits of an item number are read as that number. -/
theorem bracketed_toDigits {position : Nat} (h : position < 2 ^ 64) :
    bracketed (Nat.toDigits 10 position) = .index position := by
  have hread : readNat? (Nat.toDigits 10 position) none = some position := by
    rw [readNat?_none_digits Nat.toDigits_ne_nil (fun c hc => isDigit_toDigits hc)]
    rw [Nat.ofDigitChars_ten_toDigits]
  have hplus : '+' ∉ Nat.toDigits 10 position := not_mem_toDigits (by decide) position
  have hindex : readIndex? (Nat.toDigits 10 position) = some position := by
    unfold readIndex?
    split
    next rest hsigned =>
      -- The decimal form has no sign.
      rw [hsigned] at hplus
      exact absurd List.mem_cons_self hplus
    next =>
      simp only [hread, if_pos h]
  simp [bracketed, hindex]

/-! ## Cuts -/

/-- A point after a closed path cuts it off from what follows. -/
theorem tokenize_append_point {path : String} (hpath : Path.Closed path) (more : String) :
    tokenize (path ++ "." ++ more) = tokenize path ++ tokenize more := by
  have hread := scanPath_append_separator (Or.inl rfl) more.toList
    (show endsInBracket PathScan.between.isInBracket path.toList = false from hpath)
  simpa [tokenize, scanPath] using hread

/-- Brackets after a closed path are one step, whatever they hold, and cut the path off from what
follows. -/
theorem tokenize_append_brackets_append {path contents : String} (hpath : Path.Closed path)
    (hclose : ']' ∉ contents.toList) (more : String) :
    tokenize (path ++ "[" ++ contents ++ "]" ++ more) =
      tokenize path ++ [bracketed contents.toList] ++ tokenize more := by
  have hread := scanPath_append_separator (Or.inr rfl) (contents.toList ++ ']' :: more.toList)
    (show endsInBracket PathScan.between.isInBracket path.toList = false from hpath)
  have hrest := scanPath_inBracket_closed hclose [] more.toList
  rw [List.reverse_nil, List.nil_append] at hrest
  simpa [tokenize, scanPath, hrest] using hread

/-! ## Extending paths -/

/-- A member of what a closed path leads to is read as one more step. -/
theorem tokenize_child {path name : String} (hpath : Path.Closed path) (hname : IsPlainName name) :
    tokenize (Path.child path name) = tokenize path ++ [.key name] := by
  unfold Path.child
  split_ifs with hempty
  · have hpath : path = "" := by simpa using hempty
    rw [hpath, tokenize_plainName hname]
    rfl
  · rw [tokenize_append_point hpath, tokenize_plainName hname]

theorem closed_child {path name : String} (hpath : Path.Closed path) (hname : IsPlainName name) :
    Path.Closed (Path.child path name) := by
  have hclosed := endsInBracket_of_not_mem hname.2.2
  unfold Path.child
  split_ifs with hempty
  · exact hclosed
  · unfold Path.Closed at hpath ⊢
    simp only [String.toList_append, endsInBracket_append, hpath]
    exact hclosed

/-- Brackets after a closed path are read as one more step, whatever they hold. -/
theorem tokenize_append_brackets {path : String} {contents : List Char} (hpath : Path.Closed path)
    (hclose : ']' ∉ contents) :
    tokenize (path ++ "[" ++ String.ofList contents ++ "]") =
      tokenize path ++ [bracketed contents] := by
  have hcontents : ']' ∉ (String.ofList contents).toList := by
    rwa [String.toList_ofList]
  have hread := tokenize_append_brackets_append hpath hcontents ""
  have hempty : tokenize "" = [] := rfl
  rwa [String.append_empty, String.toList_ofList, hempty, List.append_nil] at hread

theorem closed_append_brackets {path : String} {contents : List Char} (hpath : Path.Closed path)
    (hclose : ']' ∉ contents) : Path.Closed (path ++ "[" ++ String.ofList contents ++ "]") := by
  have hopen := endsInBracket_true_of_not_mem hclose
  unfold Path.Closed at hpath ⊢
  simp only [String.toList_append, String.toList_ofList, endsInBracket_append, hpath]
  have hbracket : endsInBracket false "[".toList = true := by decide
  rw [hbracket, hopen]
  decide

/-- An item of what a closed path leads to is read as one more step. -/
theorem tokenize_item {path : String} {position : Nat} (hpath : Path.Closed path)
    (hposition : position < 2 ^ 64) :
    tokenize (Path.item path position) = tokenize path ++ [.index position] := by
  have hread := tokenize_append_brackets hpath (not_mem_toDigits (by decide) position)
  rw [bracketed_toDigits hposition] at hread
  exact hread

theorem closed_item {path : String} (hpath : Path.Closed path) (position : Nat) :
    Path.Closed (Path.item path position) :=
  closed_append_brackets hpath (not_mem_toDigits (by decide) position)

/-! ## Written steps -/

theorem tokenize_extend {path : String} {segment : Segment} (hpath : Path.Closed path)
    (h : segment.IsPlain) : tokenize (Path.extend path segment) = tokenize path ++ [segment] := by
  cases segment with
  | key name => exact tokenize_child hpath h
  | index position => exact tokenize_item hpath h

theorem closed_extend {path : String} {segment : Segment} (hpath : Path.Closed path)
    (h : segment.IsPlain) : Path.Closed (Path.extend path segment) := by
  cases segment with
  | key name => exact closed_child hpath h
  | index position => exact closed_item hpath position

/-- Steps of any sort are read back in their order when each of them extends a closed path by one
step and leaves it closed. -/
theorem tokenize_foldl {σ : Type} {extend : String → σ → String} {segment : σ → Segment}
    {steps : List σ}
    (h : ∀ step ∈ steps, ∀ path, Path.Closed path →
      tokenize (extend path step) = tokenize path ++ [segment step] ∧
        Path.Closed (extend path step))
    {path : String} (hpath : Path.Closed path) :
    tokenize (steps.foldl extend path) = tokenize path ++ steps.map segment := by
  -- The induction is on the steps still to be written, for every closed path that they extend.
  induction steps generalizing path with
  | nil => rw [List.foldl_nil, List.map_nil, List.append_nil]
  | cons step rest ih =>
      obtain ⟨hread, hclosed⟩ := h step List.mem_cons_self path hpath
      calc
        tokenize (rest.foldl extend (extend path step))
            = tokenize (extend path step) ++ rest.map segment :=
              ih (fun other hother => h other (List.mem_cons_of_mem _ hother)) hclosed
        _ = tokenize path ++ [segment step] ++ rest.map segment := by rw [hread]
        _ = tokenize path ++ (step :: rest).map segment := by simp

/-- Plain steps are read back from what is written for them. -/
theorem tokenize_render {steps : List Segment} (h : ∀ step ∈ steps, step.IsPlain) :
    tokenize (Path.render steps) = steps := by
  have hstep : ∀ step ∈ steps, ∀ path, Path.Closed path →
      tokenize (Path.extend path step) = tokenize path ++ [id step] ∧
        Path.Closed (Path.extend path step) := by
    intro step hstep path hpath
    exact ⟨tokenize_extend hpath (h step hstep), closed_extend hpath (h step hstep)⟩
  have hread := tokenize_foldl hstep Path.closed_empty
  rw [List.map_id] at hread
  exact hread

end Conform
