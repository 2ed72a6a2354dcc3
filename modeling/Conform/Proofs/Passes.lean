import Conform.Proofs.Resolved

/-!
# One pass with a frame

A document is checked in one pass that carries a frame along: the path of the place where the pass
stands, which is extended on the way in and cut back on the way out, the log so far, and whether
anything is written into it.  This file defines:

* `Frame`, with `enterKey`, `enterIndex`, `leave` and `emit`;
* `Field.pass`, `Node.pass`, `passMembers`, `passItems`: the pass over a field, a tree, its members
  and its items;
* `passRoot`: the pass over a whole document;

and proves that a pass adds to its frame the log of what it passes over, or nothing at all, and
leaves the path as it was: `Node.pass_eq_check`.  Whether anything is written decides neither where
a pass stops nor what it draws: `validateFlat_agrees_without_output`.
-/

namespace Conform

/-! ## Frames -/

/-- What a pass carries along: where it stands, what it has written, and whether it writes. -/
@[ext]
structure Frame where
  path : List Char
  written : Entries
  writes : Bool

namespace Frame

def start (writes : Bool) : Frame := ⟨[], [], writes⟩

/-- The path of the place where the pass stands, as a text. -/
def text (frame : Frame) : String := String.ofList frame.path

/-- Goes on to a member. -/
def enterKey (frame : Frame) (name : String) : Frame :=
  { frame with
    path := if frame.path.isEmpty then name.toList else frame.path ++ '.' :: name.toList }

/-- Goes on to an item. -/
def enterIndex (frame : Frame) (position : Nat) : Frame :=
  { frame with path := frame.path ++ '[' :: (Nat.toDigits 10 position ++ [']']) }

/-- Goes back to where the path had the given length. -/
def leave (frame : Frame) (mark : Nat) : Frame := { frame with path := frame.path.take mark }

/-- Writes a value at the place where the pass stands, if it writes at all. -/
def emit (frame : Frame) (value : Json) : Frame :=
  if frame.writes then { frame with written := frame.written ++ [(frame.text, value)] } else frame

/-- The frame after more entries. -/
def record (frame : Frame) (entries : Entries) : Frame :=
  if frame.writes then { frame with written := frame.written ++ entries } else frame

/-- Writes what an object keeps for itself ahead of its members.  The root has a place without being
written. -/
def emitObject (frame : Frame) (root : Bool) (members : List (String × Node)) :
    Option (List (String × Json)) → Frame
  | some given =>
    if isPassthrough members && frame.writes then
      frame.emit (.object (undeclared members given))
    else if root then frame
    else frame.emit (.object [])
  | none => frame

end Frame

/-! ## Passes -/

/-- The pass over a field. -/
def Field.pass (tolerant : Bool) (field : Field) : Option Json → Frame → Run Frame
  | none, frame =>
    match field.facets.default, field.facets.coerce with
    | some default, true => do return frame.emit (← default.draw)
    | _, _ =>
      if field.facets.isRequired && !tolerant then
        throw (field.facets.requiredViolation frame.text .null)
      else return frame
  | some value, frame => do
    let output ← (field.checkPresent frame.text value : Except Violation Json)
    return frame.emit output

/-- The pass over items, the first of them at a position, given the pass over each. -/
def passItems (pass : Json → Frame → Run Frame) : (position : Nat) → List Json → Frame → Run Frame
  | _, [], frame => return frame
  | position, item :: rest, frame => do
    let after ← pass item (frame.enterIndex position)
    passItems pass (position + 1) rest (after.leave frame.path.length)

/-- The pass over an item, given the pass over its tree. -/
def passItem (node : Node) (pass : Frame → Run Frame) (item : Json) (frame : Frame) : Run Frame :=
  if node.isObject && !item.isObject then
    if item.isEmpty then return frame.emit item
    else throw (shapeViolation .object frame.text item)
  else pass frame

mutual

/-- The pass over a tree. -/
def Node.pass (tolerant : Bool) : Node → Option Json → Frame → Run Frame
  | .field field, value, frame => field.pass tolerant value frame
  | .object members, value, frame =>
    let given := value.bind Json.members?
    passMembers tolerant members given (frame.emitObject false members given)
  | .array _, none, frame => return frame
  | .array item, some value, frame =>
    if value.isEmpty then return frame.emit value
    else match value with
      | .array items =>
        passItems (fun element => passItem item (item.pass tolerant (some element)) element) 0
          items (frame.emit (.array []))
      | value => throw (shapeViolation .array frame.text value)

/-- The pass over declared members, one after the other. -/
def passMembers (tolerant : Bool) : List (String × Node) → Option (List (String × Json)) → Frame →
    Run Frame
  | [], _, frame => return frame
  | (name, node) :: rest, given, frame => do
    let after ← node.pass tolerant (given.bind (Json.lookup name)) (frame.enterKey name)
    passMembers tolerant rest given (after.leave frame.path.length)

end

/-- The pass over a whole document. -/
def passRoot (tolerant : Bool) (members : List (String × Node)) (document : Json) (frame : Frame) :
    Run Frame :=
  let given := document.members?
  passMembers tolerant members given (frame.emitObject true members given)

/-! ## Laws of frames -/

namespace Frame

variable (frame : Frame)

theorem emit_eq_record (value : Json) : frame.emit value = frame.record [(frame.text, value)] := rfl

@[simp] theorem record_nil : frame.record [] = frame := by
  unfold record
  split
  · rw [List.append_nil]
  · rfl

theorem record_record (first second : Entries) :
    (frame.record first).record second = frame.record (first ++ second) := by
  cases hwrites : frame.writes with
  | false => simp [record, hwrites]
  | true => simp [record, hwrites, List.append_assoc]

@[simp] theorem path_record (entries : Entries) : (frame.record entries).path = frame.path := by
  unfold record
  split <;> rfl

@[simp] theorem text_record (entries : Entries) : (frame.record entries).text = frame.text := by
  simp [text]

@[simp] theorem writes_record (entries : Entries) :
    (frame.record entries).writes = frame.writes := by
  unfold record
  split <;> rfl

theorem text_enterKey (name : String) :
    (frame.enterKey name).text = Path.child frame.text name := by
  cases hpath : frame.path with
  | nil => simp [text, enterKey, Path.child, hpath]
  | cons c rest =>
      apply String.toList_inj.1
      simp [text, enterKey, Path.child, hpath]

theorem text_enterIndex (position : Nat) :
    (frame.enterIndex position).text = Path.item frame.text position := by
  apply String.toList_inj.1
  simp [text, enterIndex, Path.item]

theorem written_record (entries : Entries) :
    (frame.record entries).written = frame.written ++ if frame.writes then entries else [] := by
  unfold record
  split
  · rfl
  · exact (List.append_nil _).symm

/-- To go back from a place that was entered leaves the path as it was. -/
theorem leave_record {entered : Frame} (hpath : entered.path.take frame.path.length = frame.path)
    (hwritten : entered.written = frame.written) (hwrites : entered.writes = frame.writes)
    (entries : Entries) :
    (entered.record entries).leave frame.path.length = frame.record entries := by
  apply Frame.ext
  · simpa [leave] using hpath
  · change (entered.record entries).written = (frame.record entries).written
    rw [written_record, written_record, hwritten, hwrites]
  · simpa [leave] using hwrites

theorem leave_enterKey (name : String) (entries : Entries) :
    ((frame.enterKey name).record entries).leave frame.path.length = frame.record entries := by
  have hpath : (frame.enterKey name).path.take frame.path.length = frame.path := by
    cases hbefore : frame.path with
    | nil => rfl
    | cons c rest => simp [enterKey, hbefore]
  exact frame.leave_record hpath rfl rfl entries

theorem leave_enterIndex (position : Nat) (entries : Entries) :
    ((frame.enterIndex position).record entries).leave frame.path.length =
      frame.record entries := by
  have hpath : (frame.enterIndex position).path.take frame.path.length = frame.path := by
    simp [enterIndex]
  exact frame.leave_record hpath rfl rfl entries

/-- An object writes its place where its own entries are written. -/
theorem emitObject_eq_record (members : List (String × Node))
    (given : Option (List (String × Json))) :
    frame.emitObject false members given =
      frame.record (objectEntries members frame.text given) := by
  cases given with
  | none => exact frame.record_nil.symm
  | some given =>
      simp only [emitObject, objectEntries, emit_eq_record]
      -- Where nothing is written it does not matter what an object would keep.
      cases hpassthrough : isPassthrough members with
      | false => rfl
      | true => cases hwrites : frame.writes <;> simp [record, hwrites]

/-- The root writes nothing but what it keeps. -/
theorem emitObject_root_eq_record (members : List (String × Node))
    (given : Option (List (String × Json))) :
    frame.emitObject true members given = frame.record
      (if isPassthrough members then objectEntries members frame.text given else []) := by
  cases given with
  | none =>
      have hnone : (if isPassthrough members then objectEntries members frame.text none else []) =
          ([] : Entries) := by simp [objectEntries]
      rw [hnone, record_nil]
      rfl
  | some given =>
      cases hpassthrough : isPassthrough members with
      | false => simp [emitObject, hpassthrough]
      | true =>
          cases hwrites : frame.writes <;>
            simp [emitObject, objectEntries, emit_eq_record, record, hpassthrough, hwrites]

end Frame

/-! ## What a pass writes -/

/-- A pass that adds the entries of a log to its frame, or nothing if it does not write. -/
def Records (pass : Frame → Run Frame) (log : String → Run Entries) : Prop :=
  ∀ frame, pass frame = do return frame.record (← log frame.text)

theorem Field.pass_eq_check (tolerant : Bool) (field : Field) (value : Option Json) :
    Records (field.pass tolerant value) (field.check tolerant · value) := by
  intro frame
  cases value with
  | some given => simp [Field.pass, Field.check, Frame.emit_eq_record]
  | none =>
      simp only [Field.pass, Field.check, Field.checkAbsent]
      have hmissing : (if field.facets.isRequired && !tolerant then
            throw (field.facets.requiredViolation frame.text .null) else return frame) =
          (do
            let entries ← (if field.facets.isRequired && !tolerant then
              throw (field.facets.requiredViolation frame.text .null) else return [] : Run Entries)
            return frame.record entries) := by
        split
        · rfl
        · simp
      rcases field.facets.default with _ | default
      · exact hmissing
      · cases field.facets.coerce with
        | false => exact hmissing
        | true => simp [Frame.emit_eq_record]

theorem passItem_eq_checkItem (node : Node) {pass : Frame → Run Frame}
    {log : String → Run Entries} (h : Records pass log) (item : Json) :
    Records (passItem node pass item) (fun path => checkItem node (log path) path item) := by
  intro frame
  unfold passItem checkItem
  split
  · split
    · simp [Frame.emit_eq_record]
    · rfl
  · exact h frame

theorem passItems_eq_checkItems {pass : Json → Frame → Run Frame}
    {check : String → Json → Run Entries} {items : List Json}
    (hparts : ∀ item ∈ items, Records (pass item) (check · item)) (position : Nat) :
    Records (passItems pass position items) (checkItems check · position items) := by
  induction items generalizing position with
  | nil =>
      intro frame
      simp [passItems, checkItems]
  | cons item rest ih =>
      intro frame
      have hfirst := hparts item List.mem_cons_self (frame.enterIndex position)
      have hrest := ih (fun other hother => hparts other (List.mem_cons_of_mem _ hother))
        (position + 1)
      simp only [passItems, checkItems, hfirst, Frame.text_enterIndex, bind_assoc, pure_bind,
        Frame.leave_enterIndex, hrest _, Frame.text_record, Frame.record_record]

theorem passMembers_eq_checkMembers {tolerant : Bool} {members : List (String × Node)}
    (hparts : ∀ member ∈ members, ∀ value,
      Records (member.2.pass tolerant value) (member.2.check tolerant · value))
    (given : Option (List (String × Json))) :
    Records (passMembers tolerant members given) (checkMembers tolerant members · given) := by
  induction members with
  | nil =>
      intro frame
      simp [passMembers, checkMembers]
  | cons member rest ih =>
      intro frame
      rcases member with ⟨name, node⟩
      have hfirst := hparts (name, node) List.mem_cons_self (given.bind (Json.lookup name))
        (frame.enterKey name)
      have hrest := ih (fun other hother => hparts other (List.mem_cons_of_mem _ hother))
      simp only [passMembers, checkMembers, hfirst, Frame.text_enterKey, bind_assoc, pure_bind,
        Frame.leave_enterKey, hrest _, Frame.text_record, Frame.record_record]

/-- The pass over a tree adds the log of the tree to its frame, or nothing, and comes back to where
it started. -/
theorem Node.pass_eq_check (tolerant : Bool) (node : Node) (value : Option Json) :
    Records (node.pass tolerant value) (node.check tolerant · value) := by
  induction node using Node.induct generalizing value with
  | field field => exact field.pass_eq_check tolerant value
  | object members ih =>
      intro frame
      have hmembers := passMembers_eq_checkMembers (fun member hmember value =>
        ih member hmember value) (value.bind Json.members?)
      simp [Node.pass, Node.check, Frame.emitObject_eq_record, hmembers _, Frame.record_record]
  | array item ih =>
      intro frame
      cases value with
      | none => simp [Node.pass, Node.check]
      | some value =>
          simp only [Node.pass, Node.check]
          split
          · simp [Frame.emit_eq_record]
          · cases value with
            | array items =>
                have hitems := passItems_eq_checkItems (fun element (_ : element ∈ items) =>
                  passItem_eq_checkItem item (ih (some element)) element) 0
                simp [hitems _, Frame.emit_eq_record, Frame.record_record]
            | _ => rfl

/-! ## Whole documents -/

/-- A schema checks a document in one pass that starts from an empty frame. -/
theorem validateFlat_eq_passRoot (schema : Schema) (document : Json) :
    schema.validateFlat document = do
      let frame ← passRoot schema.options.partialInput schema.members document
        (.start schema.options.coerce)
      return frame.written := by
  have hmembers := passMembers_eq_checkMembers
    (fun member (_ : member ∈ schema.members) value =>
      member.2.pass_eq_check schema.options.partialInput value) document.members?
  simp only [passRoot, Frame.emitObject_root_eq_record, hmembers _, Schema.validateFlat, checkRoot,
    bind_assoc, pure_bind, Frame.text_record, Frame.record_record, Frame.written_record]
  rfl

/-- Whether documents are brought to their form or only checked, they are checked in the same pass,
in which every write asks whether anything is written.  The pass stops at the same violation in both
cases, or in neither, it draws the same, and where documents are only checked nothing is written. -/
theorem validateFlat_agrees_without_output (members : List (String × Node)) (tolerant : Bool)
    (document : Json) (draws : Draws) :
    (∀ coerce, (Schema.mk ⟨coerce, tolerant⟩ members).validateFlat document = do
        let frame ← passRoot tolerant members document (.start coerce)
        return frame.written) ∧
      ((∃ entries drawn,
          ((Schema.mk ⟨true, tolerant⟩ members).validateFlat document).outcome draws =
            (.ok entries, drawn) ∧
          ((Schema.mk ⟨false, tolerant⟩ members).validateFlat document).outcome draws =
            (.ok [], drawn)) ∨
        ∃ violation drawn,
          ((Schema.mk ⟨true, tolerant⟩ members).validateFlat document).outcome draws =
            (.error violation, drawn) ∧
          ((Schema.mk ⟨false, tolerant⟩ members).validateFlat document).outcome draws =
            (.error violation, drawn)) := by
  refine ⟨fun coerce => validateFlat_eq_passRoot _ document, ?_⟩
  simp only [Schema.validateFlat, Run.outcome_bind]
  rcases (checkRoot tolerant members document).outcome draws with ⟨result, drawn⟩
  cases result with
  | ok entries => exact Or.inl ⟨entries, drawn, rfl, rfl⟩
  | error violation => exact Or.inr ⟨violation, drawn, rfl, rfl⟩

end Conform
