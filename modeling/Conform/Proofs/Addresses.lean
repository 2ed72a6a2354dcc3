import Conform.Proofs.Conforming
import Mathlib.Data.List.Induction

/-!
# Addresses in schema trees

A node of a tree is found by a written path: the names on the way to it, joined by points, with a
pair of brackets for the items of an array.  The search cuts the text at its points and counts the
brackets of each piece.  This file defines:

* `TreeStep`: one step down a tree, to a member or to the items;
* `Node.follow?`: the node at the end of some steps;
* `canonicalPath`: the written form of steps, and `stepsOf`, which reads it back;
* `Node.fieldSteps`: the steps to each of the fields of a tree.

The main statement is `find?_canonicalPath`: in a resolved tree every node is found at its canonical
path, no two nodes share one, and as many of them lead to a field as there are fields.
-/

namespace Conform

/-! ## Steps -/

/-- One step down a tree: to a member of an object, or to the items of an array. -/
inductive TreeStep where
  | member (name : String)
  | items
  deriving DecidableEq

namespace Node

/-- The node one step down. -/
def child? (node : Node) : TreeStep → Option Node
  | .member name => node.members?.bind (Json.lookup name)
  | .items => node.item?

/-- The node at the end of some steps. -/
def follow? (node : Node) (steps : List TreeStep) : Option Node := steps.foldlM child? node

@[simp] theorem follow?_nil (node : Node) : node.follow? [] = some node := rfl

@[simp] theorem follow?_cons (node : Node) (step : TreeStep) (rest : List TreeStep) :
    node.follow? (step :: rest) = (node.child? step).bind (·.follow? rest) := rfl

theorem follow?_append (node : Node) (first second : List TreeStep) :
    node.follow? (first ++ second) = (node.follow? first).bind (·.follow? second) := by
  simp only [follow?, List.foldlM_append]
  rfl

theorem child?_member_eq_some {node child : Node} {name : String}
    (h : node.child? (.member name) = some child) :
    ∃ members, node = object members ∧ Json.lookup name members = some child := by
  cases node with
  | object members => exact ⟨members, rfl, h⟩
  | field _ | array _ => cases h

theorem child?_items_eq_some {node child : Node} (h : node.child? .items = some child) :
    node = array child := by
  cases node with
  | array item =>
      cases h
      rfl
  | field _ | object _ => cases h

/-- What holds of all nodes of a tree holds of those below a step. -/
theorem Everywhere.child? {p : Node → Prop} {node child : Node} {step : TreeStep}
    (h : node.Everywhere p) (hchild : node.child? step = some child) : child.Everywhere p := by
  cases step with
  | member name =>
      obtain ⟨members, rfl, hlookup⟩ := child?_member_eq_some hchild
      exact (everywhere_object.1 h).2 _ (Json.lookup_mem hlookup)
  | items =>
      obtain rfl := child?_items_eq_some hchild
      exact h.2

end Node

/-! ## Written steps -/

namespace TreeStep

/-- A path extended by a step: a point joins a name to what stands before it, if anything does. -/
def extend (path : String) : TreeStep → String
  | member name => Path.child path name
  | items => path ++ "[]"

/-- A step as it is read in a path: nothing stands between the brackets. -/
def segment : TreeStep → Segment
  | member name => .key name
  | items => .key ""

/-- The step that is read so. -/
def ofSegment : Segment → TreeStep
  | .key name => if name = "" then items else member name
  | .index _ => items

/-- The name of a member can stand in a path. -/
def IsNamed : TreeStep → Prop
  | member name => isPathName name = true
  | items => True

theorem ofSegment_segment {step : TreeStep} (h : step.IsNamed) : ofSegment step.segment = step := by
  cases step with
  | member name =>
      have hne : name ≠ "" := (isPathName_iff.1 h).1
      simp [segment, ofSegment, hne]
  | items => rfl

/-- A step is read as one more step of the path that it extends. -/
theorem tokenize_extend {step : TreeStep} (h : step.IsNamed) {path : String}
    (hpath : Path.Closed path) :
    tokenize (extend path step) = tokenize path ++ [step.segment] ∧
      Path.Closed (extend path step) := by
  cases step with
  | member name =>
      have hname := isPlainName_of_isPathName h
      exact ⟨tokenize_child hpath hname, closed_child hpath hname⟩
  | items =>
      have hnone : ']' ∉ ([] : List Char) := List.not_mem_nil
      have hpair : path ++ "[]" = path ++ "[" ++ String.ofList [] ++ "]" := by
        rw [String.append_assoc, String.append_assoc]
        rfl
      rw [extend, hpair]
      exact ⟨tokenize_append_brackets hpath hnone, closed_append_brackets hpath hnone⟩

end TreeStep

/-- The names of the steps joined by points, with brackets for every step to the items. -/
def canonicalPath (steps : List TreeStep) : String := steps.foldl TreeStep.extend ""

/-- The steps that a written path names. -/
def stepsOf (path : String) : List TreeStep := (tokenize path).map TreeStep.ofSegment

theorem canonicalPath_append (steps : List TreeStep) (step : TreeStep) :
    canonicalPath (steps ++ [step]) = step.extend (canonicalPath steps) := by
  simp [canonicalPath]

/-- Steps are read back from what is written for them. -/
theorem stepsOf_canonicalPath {steps : List TreeStep} (h : ∀ step ∈ steps, step.IsNamed) :
    stepsOf (canonicalPath steps) = steps := by
  have hread : tokenize (canonicalPath steps) = steps.map TreeStep.segment :=
    tokenize_foldl (fun step hstep _ hpath => TreeStep.tokenize_extend (h step hstep) hpath)
      Path.closed_empty
  rw [stepsOf, hread, List.map_map]
  calc
    steps.map (TreeStep.ofSegment ∘ TreeStep.segment) = steps.map id :=
      List.map_congr_left fun step hstep => TreeStep.ofSegment_segment (h step hstep)
    _ = steps := List.map_id steps

theorem canonicalPath_ne_empty {steps : List TreeStep} (h : ∀ step ∈ steps, step.IsNamed)
    (hne : steps ≠ []) : canonicalPath steps ≠ "" := by
  intro hempty
  have hsteps := stepsOf_canonicalPath h
  rw [hempty] at hsteps
  exact hne hsteps.symm

/-- The names on the way to a node of a resolved tree can stand in a path. -/
theorem Node.isNamed_of_follow? {node target : Node} (h : node.Everywhere HasPathNames)
    {steps : List TreeStep} (hsteps : node.follow? steps = some target) :
    ∀ step ∈ steps, step.IsNamed := by
  induction steps generalizing node with
  | nil => exact fun step hstep => absurd hstep List.not_mem_nil
  | cons step rest ih =>
      obtain ⟨child, hchild, hrest⟩ := Option.bind_eq_some_iff.1 hsteps
      refine List.forall_mem_cons.2 ⟨?_, ih (h.child? hchild) hrest⟩
      cases step with
      | member name =>
          obtain ⟨members, rfl, hlookup⟩ := child?_member_eq_some hchild
          exact (everywhere_object.1 h).1.2 _ (Json.lookup_mem hlookup)
      | items => exact trivial

/-! ## Pieces of a path -/

namespace Node

theorem pieces_of_not_mem {text : List Char} (h : '.' ∉ text) : pieces text = [text] := by
  induction text with
  | nil => rfl
  | cons c rest ih =>
      have hc : c ≠ '.' := fun heq => h (heq ▸ List.mem_cons_self)
      simp [pieces, ih (fun hmem => h (List.mem_cons_of_mem c hmem)), hc]

theorem pieces_ne_nil (text : List Char) : pieces text ≠ [] := by
  cases text with
  | nil => exact List.cons_ne_nil _ _
  | cons c rest =>
      unfold pieces
      split
      · split <;> exact List.cons_ne_nil _ _
      · exact List.cons_ne_nil _ _

/-- A point ends a piece. -/
theorem pieces_append_point (first second : List Char) :
    pieces (first ++ '.' :: second) = pieces first ++ pieces second := by
  induction first with
  | nil =>
      cases hsecond : pieces second with
      | nil => exact absurd hsecond (pieces_ne_nil second)
      | cons piece more => simp [pieces, hsecond]
  | cons c rest ih =>
      cases hrest : pieces rest with
      | nil => exact absurd hrest (pieces_ne_nil rest)
      | cons piece more =>
          rw [hrest] at ih
          by_cases hc : c = '.' <;> simp [pieces, ih, hrest, hc]

/-- What holds no point belongs to the last piece of the text that it follows. -/
theorem exists_pieces_append (text : List Char) :
    ∃ front last, pieces text = front ++ [last] ∧
      ∀ rest, '.' ∉ rest → pieces (text ++ rest) = front ++ [last ++ rest] := by
  induction text with
  | nil => exact ⟨[], [], rfl, fun rest hrest => pieces_of_not_mem hrest⟩
  | cons c text ih =>
      obtain ⟨front, last, htext, hrest⟩ := ih
      by_cases hc : c = '.'
      · refine ⟨[] :: front, last, ?_, fun rest hpoint => ?_⟩
        · cases front <;> simp [pieces, htext, hc]
        · cases front <;> simp [pieces, hrest rest hpoint, hc]
      · cases front with
        | nil =>
          refine ⟨[], c :: last, ?_, fun rest hpoint => ?_⟩
          · simp [pieces, htext, hc]
          · simp [pieces, hrest rest hpoint, hc]
        | cons piece more =>
          refine ⟨(c :: piece) :: more, last, ?_, fun rest hpoint => ?_⟩
          · simp [pieces, htext, hc]
          · simp [pieces, hrest rest hpoint, hc]

/-! ## Brackets of a piece -/

/-- A bracket that opens at the end of a text is not closed by a pair that follows. -/
theorem not_closed_append {c : Char} {rest : List Char}
    (h : ∀ more, c = '[' → rest = ']' :: more → False) :
    ∀ more, c = '[' → rest ++ ['[', ']'] = ']' :: more → False := by
  intro more hc hrest
  cases rest with
  | nil => simp at hrest
  | cons d rest =>
      obtain ⟨rfl, -⟩ := List.cons.inj hrest
      exact h rest hc rfl

/-- Brackets at the end of a piece are no part of its name. -/
theorem beforeBrackets_append (piece : List Char) :
    beforeBrackets (piece ++ ['[', ']']) = beforeBrackets piece := by
  fun_induction beforeBrackets piece with
  | case1 => rfl
  | case2 rest => rfl
  | case3 c rest hnot ih =>
      rw [List.cons_append, beforeBrackets, ih]
      exact not_closed_append hnot

theorem bracketPairs_append (piece : List Char) :
    bracketPairs (piece ++ ['[', ']']) = bracketPairs piece + 1 := by
  fun_induction bracketPairs piece with
  | case1 => rfl
  | case2 rest ih => simp [bracketPairs, ih]
  | case3 c rest hnot ih =>
      rw [List.cons_append, bracketPairs, ih]
      exact not_closed_append hnot

theorem beforeBrackets_of_not_mem {piece : List Char} (h : '[' ∉ piece) :
    beforeBrackets piece = piece := by
  fun_induction beforeBrackets piece with
  | case1 => rfl
  | case2 rest => simp at h
  | case3 c rest hnot ih => rw [ih fun hmem => h (List.mem_cons_of_mem c hmem)]

theorem bracketPairs_of_not_mem {piece : List Char} (h : '[' ∉ piece) : bracketPairs piece = 0 := by
  fun_induction bracketPairs piece with
  | case1 => rfl
  | case2 rest ih => simp at h
  | case3 c rest hnot ih => exact ih fun hmem => h (List.mem_cons_of_mem c hmem)

/-! ## Finding -/

theorem itemAt?_succ (depth : Nat) (node : Node) :
    itemAt? (depth + 1) node = (itemAt? depth node).bind item? := by
  induction depth generalizing node with
  | zero => simp [itemAt?]
  | succ depth ih =>
      rw [itemAt?, itemAt?, Option.bind_assoc]
      exact congrArg _ (funext ih)

theorem step?_eq (node : Node) (piece : List Char) :
    node.step? piece = (node.child? (.member (String.ofList (beforeBrackets piece)))).bind
      (itemAt? (bracketPairs piece)) := by
  rw [child?, Option.bind_assoc]
  rfl

/-- Brackets at the end of a piece lead on to the items. -/
theorem step?_append (node : Node) (piece : List Char) :
    node.step? (piece ++ ['[', ']']) = (node.step? piece).bind item? := by
  rw [step?_eq, step?_eq, beforeBrackets_append, bracketPairs_append, Option.bind_assoc]
  exact congrArg _ (funext (itemAt?_succ _))

theorem step?_name (node : Node) {name : String} (h : '[' ∉ name.toList) :
    node.step? name.toList = node.child? (.member name) := by
  have hzero : itemAt? 0 = some := rfl
  rw [step?_eq, beforeBrackets_of_not_mem h, bracketPairs_of_not_mem h, String.ofList_toList, hzero,
    Option.bind_fun_some]

variable {root : Node}

/-- Brackets at the end of a path lead on to the items, whatever the path is. -/
theorem find?_items (path : String) : root.find? (path ++ "[]") = (root.find? path).bind item? := by
  obtain ⟨front, last, hpath, happend⟩ := exists_pieces_append path.toList
  have hpieces : pieces (path ++ "[]").toList = front ++ [last ++ ['[', ']']] := by
    rw [String.toList_append]
    exact happend _ (by decide)
  rw [find?, find?, hpieces, hpath, List.foldlM_append, List.foldlM_append]
  simp [step?_append, Option.bind_assoc]

/-- A name after a point leads on to the member. -/
theorem find?_child {path name : String} (hname : isPathName name = true) (hpath : path ≠ "") :
    root.find? (Path.child path name) = (root.find? path).bind (·.child? (.member name)) := by
  obtain ⟨-, hpoint, hopen, -⟩ := isPathName_iff.1 hname
  have hchild : (Path.child path name).toList = path.toList ++ '.' :: name.toList := by
    simp [Path.child, hpath]
  rw [find?, find?, hchild, pieces_append_point, pieces_of_not_mem hpoint, List.foldlM_append]
  simp [step?_name _ hopen]

/-- A name alone leads to the member. -/
theorem find?_name {name : String} (hname : isPathName name = true) :
    root.find? name = root.child? (.member name) := by
  obtain ⟨-, hpoint, hopen, -⟩ := isPathName_iff.1 hname
  rw [find?, pieces_of_not_mem hpoint]
  simp [step?_name _ hopen]

/-- Every node below an object is found at its canonical path. -/
theorem find?_of_follow? {members : List (String × Node)}
    (h : (object members).Everywhere HasPathNames) {steps : List TreeStep} (hne : steps ≠ [])
    {target : Node} (hsteps : (object members).follow? steps = some target) :
    (object members).find? (canonicalPath steps) = some target := by
  -- The induction is on the steps from the end, because paths are extended there.
  induction steps using List.reverseRecOn generalizing target with
  | nil => exact absurd rfl hne
  | append_singleton before step ih =>
      have hnamed := isNamed_of_follow? h hsteps
      rw [follow?_append] at hsteps
      obtain ⟨parent, hparent, hstep⟩ := Option.bind_eq_some_iff.1 hsteps
      simp only [follow?_cons, follow?_nil, Option.bind_fun_some] at hstep
      rw [canonicalPath_append]
      rcases eq_or_ne before [] with rfl | hbefore
      · cases hparent
        cases step with
        | items => cases hstep
        | member name => exact (find?_name (hnamed _ List.mem_cons_self)).trans hstep
      · have hfound := ih hbefore hparent
        cases step with
        | items =>
            rw [TreeStep.extend, find?_items, hfound]
            exact hstep
        | member name =>
            have hname : isPathName name = true :=
              hnamed (.member name) (List.mem_append_right _ List.mem_cons_self)
            have hpath : canonicalPath before ≠ "" :=
              canonicalPath_ne_empty (fun step hstep => hnamed step (List.mem_append_left _ hstep))
                hbefore
            rw [TreeStep.extend, find?_child hname hpath, hfound]
            exact hstep

/-! ## Fields -/

mutual

/-- The steps to the fields of a tree. -/
def fieldSteps : Node → List (List TreeStep)
  | field _ => [[]]
  | object members => memberFieldSteps members
  | array item => item.fieldSteps.map (.items :: ·)

/-- The steps to the fields of members, in order of declaration. -/
def memberFieldSteps : List (String × Node) → List (List TreeStep)
  | [] => []
  | (name, node) :: rest => node.fieldSteps.map (.member name :: ·) ++ memberFieldSteps rest

end

theorem length_memberFieldSteps {members : List (String × Node)}
    (h : ∀ member ∈ members, member.2.fieldSteps.length = member.2.fieldCount) :
    (memberFieldSteps members).length = memberFieldCount members := by
  induction members with
  | nil => rfl
  | cons member rest ih =>
      rcases member with ⟨name, node⟩
      have hfirst := h (name, node) List.mem_cons_self
      have hrest := ih fun other hother => h other (List.mem_cons_of_mem _ hother)
      rw [memberFieldSteps, memberFieldCount, List.length_append, List.length_map, hfirst, hrest]

theorem length_fieldSteps (node : Node) : node.fieldSteps.length = node.fieldCount := by
  induction node using Node.induct with
  | field f => rfl
  | object members ih => exact length_memberFieldSteps ih
  | array item ih =>
      rw [fieldSteps, List.length_map, ih]
      rfl

theorem mem_memberFieldSteps {members : List (String × Node)} {steps : List TreeStep} :
    steps ∈ memberFieldSteps members ↔
      ∃ member ∈ members, ∃ rest ∈ member.2.fieldSteps, steps = .member member.1 :: rest := by
  induction members with
  | nil => simp [memberFieldSteps]
  | cons member rest ih =>
      rcases member with ⟨name, node⟩
      rw [memberFieldSteps, List.mem_append, ih, List.mem_map]
      simp [eq_comm]

/-- The steps to the fields are those that end at a field. -/
theorem mem_fieldSteps {node : Node} (h : node.Everywhere HasPathNames) {steps : List TreeStep} :
    steps ∈ node.fieldSteps ↔ ∃ f, node.follow? steps = some (.field f) := by
  induction node using Node.induct generalizing steps with
  | field f =>
      rw [fieldSteps, List.mem_singleton]
      constructor
      · rintro rfl
        exact ⟨f, rfl⟩
      · rintro ⟨g, hsteps⟩
        cases steps with
        | nil => rfl
        | cons step rest => cases step <;> cases hsteps
  | object members ih =>
      obtain ⟨⟨hkeys, -⟩, hforms⟩ := everywhere_object.1 h
      rw [fieldSteps, mem_memberFieldSteps]
      constructor
      · rintro ⟨member, hmember, rest, hrest, rfl⟩
        have hlookup : (object members).child? (.member member.1) = some member.2 :=
          Json.lookup_of_mem hkeys hmember
        rw [follow?_cons, hlookup]
        exact (ih member hmember (hforms member hmember)).1 hrest
      · rintro ⟨f, hsteps⟩
        cases steps with
        | nil => cases hsteps
        | cons step rest =>
            obtain ⟨child, hchild, hrest⟩ := Option.bind_eq_some_iff.1 hsteps
            cases step with
            | items => cases hchild
            | member name =>
                have hmember : (name, child) ∈ members := Json.lookup_mem hchild
                exact ⟨_, hmember, rest, (ih _ hmember (hforms _ hmember)).2 ⟨f, hrest⟩, rfl⟩
  | array item ih =>
      rw [fieldSteps, List.mem_map]
      constructor
      · rintro ⟨rest, hrest, rfl⟩
        exact (ih h.2).1 hrest
      · rintro ⟨f, hsteps⟩
        cases steps with
        | nil => cases hsteps
        | cons step rest =>
            cases step with
            | items => exact ⟨rest, (ih h.2).2 ⟨f, hsteps⟩, rfl⟩
            | member name => cases hsteps

theorem nodup_memberFieldSteps {members : List (String × Node)}
    (hkeys : (members.map (·.1)).Nodup)
    (h : ∀ member ∈ members, member.2.fieldSteps.Nodup) : (memberFieldSteps members).Nodup := by
  induction members with
  | nil => exact List.nodup_nil
  | cons member rest ih =>
      rcases member with ⟨name, node⟩
      obtain ⟨hnew, hkeys⟩ := List.nodup_cons.1 hkeys
      have hfirst : (node.fieldSteps.map (TreeStep.member name :: ·)).Nodup :=
        (h (name, node) List.mem_cons_self).map List.cons_injective
      have hrest := ih hkeys fun other hother => h other (List.mem_cons_of_mem _ hother)
      refine hfirst.append hrest ?_
      -- The steps to the other fields start at other names.
      intro steps hsteps hother
      obtain ⟨below, -, rfl⟩ := List.mem_map.1 hsteps
      obtain ⟨other, hmem, below', -, heq⟩ := mem_memberFieldSteps.1 hother
      cases heq
      exact hnew (List.mem_map.2 ⟨other, hmem, rfl⟩)

theorem nodup_fieldSteps {node : Node} (h : node.Everywhere HasPathNames) :
    node.fieldSteps.Nodup := by
  induction node using Node.induct with
  | field f => exact List.nodup_singleton []
  | object members ih =>
      obtain ⟨⟨hkeys, -⟩, hforms⟩ := everywhere_object.1 h
      exact nodup_memberFieldSteps hkeys fun member hmember => ih member hmember (hforms _ hmember)
  | array item ih => exact (ih h.2).map List.cons_injective

end Node

/-- In a resolved tree every node below the root is found at its canonical path, different ways lead
to different paths, and there are as many fields as canonical paths at which a field is found. -/
theorem find?_canonicalPath {options : Options} {registry : Registry} {definition : Definition}
    {members : List (String × Node)}
    (h : (resolve options registry definition).result = .ok members) :
    (∀ steps node, steps ≠ [] → (Node.object members).follow? steps = some node →
      (Node.object members).find? (canonicalPath steps) = some node) ∧
      (∀ steps other node node', (Node.object members).follow? steps = some node →
        (Node.object members).follow? other = some node' →
        canonicalPath steps = canonicalPath other → steps = other) ∧
      ∃ paths : List String, paths.Nodup ∧ paths.length = (Node.object members).fieldCount ∧
        ∀ path, path ∈ paths ↔
          (∃ steps node, steps ≠ [] ∧ (Node.object members).follow? steps = some node ∧
            canonicalPath steps = path) ∧
          ∃ field, (Node.object members).find? path = some (.field field) := by
  have hnames := resolve_hasPathNames h
  have hread : ∀ {steps : List TreeStep} {node : Node},
      (Node.object members).follow? steps = some node → stepsOf (canonicalPath steps) = steps :=
    fun hsteps => stepsOf_canonicalPath (Node.isNamed_of_follow? hnames hsteps)
  refine ⟨fun steps node hne hsteps => Node.find?_of_follow? hnames hne hsteps, ?_, ?_⟩
  · intro steps other node node' hsteps hother hpath
    rw [← hread hsteps, ← hread hother, hpath]
  · -- The paths are those of the steps to the fields.
    refine ⟨(Node.object members).fieldSteps.map canonicalPath, ?_, ?_, fun path => ?_⟩
    · refine List.Nodup.map_on ?_ (Node.nodup_fieldSteps hnames)
      intro steps hsteps other hother hpath
      obtain ⟨f, hsteps⟩ := (Node.mem_fieldSteps hnames).1 hsteps
      obtain ⟨g, hother⟩ := (Node.mem_fieldSteps hnames).1 hother
      rw [← hread hsteps, ← hread hother, hpath]
    · rw [List.length_map, Node.length_fieldSteps]
    · rw [List.mem_map]
      constructor
      · rintro ⟨steps, hmem, rfl⟩
        obtain ⟨f, hsteps⟩ := (Node.mem_fieldSteps hnames).1 hmem
        have hne : steps ≠ [] := by
          rintro rfl
          cases hsteps
        exact ⟨⟨steps, _, hne, hsteps, rfl⟩, f, Node.find?_of_follow? hnames hne hsteps⟩
      · rintro ⟨⟨steps, node, hne, hsteps, rfl⟩, f, hfound⟩
        rw [Node.find?_of_follow? hnames hne hsteps] at hfound
        cases hfound
        exact ⟨steps, (Node.mem_fieldSteps hnames).2 ⟨f, hsteps⟩, rfl⟩

/-- Objects in arrays of arrays, under a name that a member of theirs has too. -/
def gridDefinition : Definition :=
  .object [("rows", .array [.array [.object [("rows", .array [.type (.kind .number)]),
    ("size", .type (.kind .int32))]]])]

/-- The members that `gridDefinition` states. -/
def gridMembers : List (String × Node) :=
  [("rows", .array (.array (.object [("rows", .array (.field (.bare (.builtin .number)))),
    ("size", .field (.bare (.builtin .int32)))])))]

/-- The steps to the items of the inner array. -/
def gridSteps : List TreeStep := [.member "rows", .items, .items, .member "rows", .items]

theorem find?_canonicalPath_grid :
    (resolve {} .builtin gridDefinition).result = .ok gridMembers ∧
      canonicalPath gridSteps = "rows[][].rows[]" ∧
      (Node.object gridMembers).find? "rows[][].rows[]" =
        some (.field (.bare (.builtin .number))) ∧
      ∃ paths : List String, paths.Nodup ∧ paths.length = 2 ∧ "rows[][].rows[]" ∈ paths := by
  have hresolve : (resolve {} .builtin gridDefinition).result = .ok gridMembers := rfl
  obtain ⟨hfind, -, paths, hnodup, hlength, hmem⟩ := find?_canonicalPath hresolve
  have hpath : canonicalPath gridSteps = "rows[][].rows[]" := by decide
  have hsteps : (Node.object gridMembers).follow? gridSteps =
      some (.field (.bare (.builtin .number))) := rfl
  have hfound := hfind gridSteps _ (by decide) hsteps
  rw [hpath] at hfound
  exact ⟨hresolve, hpath, hfound, paths, hnodup, hlength,
    (hmem _).2 ⟨⟨gridSteps, _, by decide, hsteps, hpath⟩, _, hfound⟩⟩

end Conform
