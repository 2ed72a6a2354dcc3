import Conform.Proofs.Resolved

/-!
# Visits

A document is checked in places: fields, objects, arrays and items, one after the other.  Laid out
in a row, the places are known before any of them is checked, and checking them in turn is what
checking the document means.  This file defines:

* `Task`: what is checked in one place, and `Visit`: a task with the steps to its place;
* `Node.visits`, `rootVisits`: the places of a tree and of a whole document, in order;
* `runVisits`: one visit after the other, up to the first violation;

and proves that the log of a document is the log of its visits: `checkRoot_eq_runVisits`.
-/

namespace Conform

/-! ## Tasks -/

/-- What is checked in one place. -/
inductive Task where
  /-- A field, with the value that stands there, if any. -/
  | field (field : Field) (value : Option Json)
  /-- An object, with the members that it keeps although they are not declared. -/
  | object (kept : List (String × Json))
  /-- A value that should be an array. -/
  | array (value : Json)
  /-- An item that should be an object. -/
  | item (value : Json)

/-- What a task writes at a path. -/
def Task.run (tolerant : Bool) (path : String) : Task → Run Entries
  | field f value => f.check tolerant path value
  | object kept => return [(path, .object kept)]
  | array value =>
    if value.isEmpty then return [(path, value)]
    else match value with
      | .array _ => return [(path, .array [])]
      | value => throw (shapeViolation .array path value)
  | item value =>
    if value.isObject then return []
    else if value.isEmpty then return [(path, value)]
    else throw (shapeViolation .object path value)

/-- A task with the steps to its place. -/
structure Visit where
  steps : List Segment
  task : Task

namespace Visit

def path (visit : Visit) : String := Path.render visit.steps

def run (tolerant : Bool) (visit : Visit) : Run Entries := visit.task.run tolerant visit.path

end Visit

/-- What visits write, one after the other. -/
def runVisits (tolerant : Bool) : List Visit → Run Entries
  | [] => return []
  | visit :: rest => do
    let first ← visit.run tolerant
    return first ++ (← runVisits tolerant rest)

/-! ## Places of a tree -/

/-- The visit of an object itself. -/
def objectVisit (members : List (String × Node)) (steps : List Segment) :
    Option (List (String × Json)) → List Visit
  | some given =>
    [⟨steps, .object (if isPassthrough members then undeclared members given else [])⟩]
  | none => []

/-- The visits of items, the first of them at a position, given the visits of each. -/
def itemVisits (visits : List Segment → Json → List Visit) (steps : List Segment) :
    (position : Nat) → List Json → List Visit
  | _, [] => []
  | position, item :: rest =>
    visits (steps ++ [.index position]) item ++ itemVisits visits steps (position + 1) rest

/-- The visits of an item: nothing is visited below one that should be an object and is not. -/
def elementVisits (node : Node) (below : List Visit) (steps : List Segment) (item : Json) :
    List Visit :=
  if node.isObject then ⟨steps, .item item⟩ :: (if item.isObject then below else []) else below

mutual

/-- The visits of a tree for a value at the end of some steps. -/
def Node.visits : Node → (steps : List Segment) → Option Json → List Visit
  | .field field, steps, value => [⟨steps, .field field value⟩]
  | .object members, steps, value =>
    objectVisit members steps (value.bind Json.members?) ++
      memberVisits members steps (value.bind Json.members?)
  | .array _, _, none => []
  | .array item, steps, some value =>
    ⟨steps, .array value⟩ :: itemVisits (fun steps element =>
      elementVisits item (item.visits steps (some element)) steps element)
      steps 0 (value.items?.getD [])

/-- The visits of declared members, in order of declaration. -/
def memberVisits : List (String × Node) → (steps : List Segment) →
    Option (List (String × Json)) → List Visit
  | [], _, _ => []
  | (name, node) :: rest, steps, given =>
    node.visits (steps ++ [.key name]) (given.bind (Json.lookup name)) ++
      memberVisits rest steps given

end

/-- The visits of a whole document.  The root itself is visited only when it keeps members that are
not declared. -/
def rootVisits (members : List (String × Node)) (document : Json) : List Visit :=
  (if isPassthrough members then objectVisit members [] document.members? else []) ++
    memberVisits members [] document.members?

/-! ## Which places are visited -/

theorem mem_memberVisits {members : List (String × Node)} {steps : List Segment}
    {given : Option (List (String × Json))} {visit : Visit} :
    visit ∈ memberVisits members steps given ↔ ∃ member ∈ members,
      visit ∈ member.2.visits (steps ++ [.key member.1]) (given.bind (Json.lookup member.1)) := by
  induction members with
  | nil => simp [memberVisits]
  | cons member rest ih =>
      rcases member with ⟨name, node⟩
      simp [memberVisits, ih]

/-- What is visited below items is visited below one of them, whose number counts from the first. -/
theorem mem_itemVisits {visits : List Segment → Json → List Visit} {steps : List Segment}
    {position : Nat} {items : List Json} {visit : Visit} :
    visit ∈ itemVisits visits steps position items ↔ ∃ (offset : Nat) (item : Json),
      items[offset]? = some item ∧ visit ∈ visits (steps ++ [.index (position + offset)]) item := by
  induction items generalizing position with
  | nil => simp [itemVisits]
  | cons item rest ih =>
      rw [itemVisits, List.mem_append, ih]
      constructor
      · -- The offset counts from the first item, the position from the start of the array.
        rintro (hfirst | ⟨offset, other, hother, hvisit⟩)
        · exact ⟨0, item, rfl, hfirst⟩
        · refine ⟨offset + 1, other, hother, ?_⟩
          rwa [Nat.add_assoc, Nat.add_comm 1 offset] at hvisit
      · rintro ⟨offset, other, hother, hvisit⟩
        cases offset with
        | zero =>
            cases hother
            exact Or.inl hvisit
        | succ offset =>
            refine Or.inr ⟨offset, other, hother, ?_⟩
            rwa [Nat.add_assoc, Nat.add_comm 1 offset]

theorem mem_elementVisits {node : Node} {below : List Visit} {steps : List Segment} {item : Json}
    {visit : Visit} (h : visit ∈ elementVisits node below steps item) :
    visit = ⟨steps, .item item⟩ ∨ visit ∈ below := by
  unfold elementVisits at h
  split at h
  · rcases List.mem_cons.1 h with rfl | h
    · exact Or.inl rfl
    · split at h
      · exact Or.inr h
      · exact absurd h List.not_mem_nil
  · exact Or.inr h

theorem mem_objectVisit {members : List (String × Node)} {steps : List Segment}
    {given : Option (List (String × Json))} {visit : Visit}
    (h : visit ∈ objectVisit members steps given) : ∃ kept, visit = ⟨steps, .object kept⟩ := by
  cases given with
  | none => exact absurd h List.not_mem_nil
  | some given => exact ⟨_, List.mem_singleton.1 h⟩

/-- A visited field is a field of the tree. -/
theorem Node.of_mem_visits {p : Node → Prop} {node : Node} (h : node.Everywhere p)
    {steps place : List Segment} {value at' : Option Json} {f : Field}
    (hvisit : ⟨place, .field f at'⟩ ∈ node.visits steps value) : p (.field f) := by
  induction node using Node.induct generalizing steps value with
  | field other =>
      rcases Visit.mk.inj (List.mem_singleton.1 hvisit) with ⟨-, htask⟩
      cases htask
      exact h
  | object members ih =>
      rcases List.mem_append.1 hvisit with hobject | hmembers
      · -- The object itself is no field.
        rcases mem_objectVisit hobject with ⟨kept, hkept⟩
        exact Task.noConfusion (Visit.mk.inj hkept).2
      · rcases mem_memberVisits.1 hmembers with ⟨member, hmember, hbelow⟩
        exact ih member hmember ((Node.everywhere_object.1 h).2 member hmember) hbelow
  | array item ih =>
      cases value with
      | none => exact absurd hvisit List.not_mem_nil
      | some value =>
          rcases List.mem_cons.1 hvisit with harray | hitems
          · exact Task.noConfusion (Visit.mk.inj harray).2
          · rcases mem_itemVisits.1 hitems with ⟨offset, element, -, helement⟩
            rcases mem_elementVisits helement with hshape | hbelow
            · exact Task.noConfusion (Visit.mk.inj hshape).2
            · exact ih h.2 hbelow

/-- A field that is visited in a document is a field of the tree. -/
theorem of_mem_rootVisits {p : Node → Prop} {members : List (String × Node)}
    (h : (Node.object members).Everywhere p) {document : Json} {place : List Segment}
    {value : Option Json} {f : Field}
    (hvisit : ⟨place, .field f value⟩ ∈ rootVisits members document) : p (.field f) := by
  rcases List.mem_append.1 hvisit with hroot | hmembers
  · split at hroot
    · rcases mem_objectVisit hroot with ⟨kept, hkept⟩
      exact Task.noConfusion (Visit.mk.inj hkept).2
    · exact absurd hroot List.not_mem_nil
  · rcases mem_memberVisits.1 hmembers with ⟨member, hmember, hbelow⟩
    exact Node.of_mem_visits ((Node.everywhere_object.1 h).2 member hmember) hbelow

/-! ## The log of visits -/

theorem render_append_key (steps : List Segment) (name : String) :
    Path.render (steps ++ [.key name]) = Path.child (Path.render steps) name := by
  simp [Path.render, Path.extend]

theorem render_append_index (steps : List Segment) (position : Nat) :
    Path.render (steps ++ [.index position]) = Path.item (Path.render steps) position := by
  simp [Path.render, Path.extend]

theorem runVisits_append (tolerant : Bool) (first second : List Visit) :
    runVisits tolerant (first ++ second) = do
      let before ← runVisits tolerant first
      return before ++ (← runVisits tolerant second) := by
  induction first with
  | nil => simp [runVisits]
  | cons visit rest ih =>
      simp only [List.cons_append, runVisits, ih, bind_assoc, pure_bind, List.append_assoc]

/-- Where visits succeed each of them does, and what it writes is in the log. -/
theorem runVisits_eq_ok {tolerant : Bool} {visits : List Visit} {draws drawn : Draws}
    {entries : Entries} (h : (runVisits tolerant visits).outcome draws = (.ok entries, drawn))
    {visit : Visit} (hvisit : visit ∈ visits) :
    ∃ before written after, (visit.run tolerant).outcome before = (.ok written, after) ∧
      written ⊆ entries := by
  -- Each visit starts from what the ones before it have drawn, so the start varies.
  induction visits generalizing draws entries with
  | nil => exact absurd hvisit List.not_mem_nil
  | cons first rest ih =>
      rcases Run.outcome_bind_eq_ok h with ⟨written, after, hfirst, hnext⟩
      rcases Run.outcome_bind_eq_ok hnext with ⟨others, between, hothers, hlast⟩
      cases hlast
      rcases List.mem_cons.1 hvisit with rfl | hmem
      · exact ⟨draws, written, after, hfirst, List.subset_append_left _ _⟩
      · rcases ih hothers hmem with ⟨before, mine, end', hmine, hsubset⟩
        exact ⟨before, mine, end', hmine, List.subset_append_of_subset_right _ hsubset⟩

theorem runVisits_single (tolerant : Bool) (visit : Visit) :
    runVisits tolerant [visit] = visit.run tolerant := by
  simp [runVisits]

theorem runVisits_objectVisit (tolerant : Bool) (members : List (String × Node))
    (steps : List Segment) (given : Option (List (String × Json))) :
    runVisits tolerant (objectVisit members steps given) =
      pure (objectEntries members (Path.render steps) given) := by
  cases given with
  | none => rfl
  | some given =>
      rw [objectVisit, runVisits_single]
      rfl

/-- An item is checked by its visits when its tree is. -/
theorem checkItem_eq_runVisits {tolerant : Bool} {node : Node} {steps : List Segment} {item : Json}
    {below : List Visit} {check : Run Entries} (h : check = runVisits tolerant below) :
    checkItem node check (Path.render steps) item =
      runVisits tolerant (elementVisits node below steps item) := by
  subst h
  unfold checkItem elementVisits
  by_cases hnode : node.isObject = true
  · by_cases hitem : item.isObject = true
    -- The visit of a given object writes nothing and goes on below it.
    · simp [hnode, hitem, runVisits, Visit.run, Task.run]
    · simp only [hnode, hitem, Bool.not_false, Bool.and_true, if_true]
      rw [if_neg Bool.false_ne_true, runVisits_single]
      simp [Visit.run, Task.run, Visit.path, hitem]
  · simp [hnode]

theorem checkItems_eq_runVisits {tolerant : Bool} {check : String → Json → Run Entries}
    {visits : List Segment → Json → List Visit} {steps : List Segment} {items : List Json}
    (hparts : ∀ item ∈ items, ∀ steps, check (Path.render steps) item =
      runVisits tolerant (visits steps item)) (position : Nat) :
    checkItems check (Path.render steps) position items =
      runVisits tolerant (itemVisits visits steps position items) := by
  induction items generalizing position with
  | nil => rfl
  | cons item rest ih =>
      have hfirst := hparts item List.mem_cons_self (steps ++ [.index position])
      have hrest := ih (fun other hother => hparts other (List.mem_cons_of_mem _ hother))
        (position + 1)
      calc
        checkItems check (Path.render steps) position (item :: rest)
            = (do
                let first ← check (Path.render (steps ++ [.index position])) item
                return first ++ (← checkItems check (Path.render steps) (position + 1) rest)) := by
              rw [render_append_index, checkItems]
        _ = runVisits tolerant (visits (steps ++ [.index position]) item ++
              itemVisits visits steps (position + 1) rest) := by
              rw [runVisits_append, hfirst, hrest]

theorem checkMembers_eq_runVisits {tolerant : Bool} {members : List (String × Node)}
    (hparts : ∀ member ∈ members, ∀ steps value, member.2.check tolerant (Path.render steps) value =
      runVisits tolerant (member.2.visits steps value)) (steps : List Segment)
    (given : Option (List (String × Json))) :
    checkMembers tolerant members (Path.render steps) given =
      runVisits tolerant (memberVisits members steps given) := by
  induction members with
  | nil => rfl
  | cons member rest ih =>
      rcases member with ⟨name, node⟩
      have hfirst := hparts (name, node) List.mem_cons_self (steps ++ [.key name])
        (given.bind (Json.lookup name))
      have hrest := ih (fun other hother => hparts other (List.mem_cons_of_mem _ hother))
      calc
        checkMembers tolerant ((name, node) :: rest) (Path.render steps) given
            = (do
                let first ← node.check tolerant (Path.render (steps ++ [.key name]))
                  (given.bind (Json.lookup name))
                return first ++ (← checkMembers tolerant rest (Path.render steps) given)) := by
              rw [render_append_key, checkMembers]
        _ = runVisits tolerant (node.visits (steps ++ [.key name])
              (given.bind (Json.lookup name)) ++ memberVisits rest steps given) := by
              rw [runVisits_append, hfirst, hrest]

/-- A tree is checked by its visits. -/
theorem Node.check_eq_runVisits (tolerant : Bool) (node : Node) (steps : List Segment)
    (value : Option Json) :
    node.check tolerant (Path.render steps) value =
      runVisits tolerant (node.visits steps value) := by
  induction node using Node.induct generalizing steps value with
  | field field =>
      rw [Node.visits, runVisits_single]
      rfl
  | object members ih =>
      have hrest := checkMembers_eq_runVisits (fun member hmember => ih member hmember) steps
        (value.bind Json.members?)
      rw [Node.check, Node.visits, runVisits_append, runVisits_objectVisit, ← hrest]
      simp
  | array item ih =>
      cases value with
      | none => rfl
      | some value =>
          have hitems : ∀ items, checkItems (fun path element =>
              checkItem item (item.check tolerant path (some element)) path element)
              (Path.render steps) 0 items =
                runVisits tolerant (itemVisits (fun steps element =>
                  elementVisits item (item.visits steps (some element)) steps element)
                  steps 0 items) := by
            intro items
            apply checkItems_eq_runVisits
            intro element _ steps
            exact checkItem_eq_runVisits (ih steps (some element))
          -- A value that is no array is empty or stops the run, and nothing is visited below it.
          cases value with
          | array items =>
              simp [Node.check, Node.visits, runVisits, Visit.run, Task.run, Visit.path,
                Json.isEmpty, Json.items?, ← hitems]
          | _ =>
              simp [Node.check, Node.visits, runVisits, Visit.run, Task.run, Visit.path,
                Json.isEmpty, Json.items?, itemVisits]

/-- A document is checked by its visits. -/
theorem checkRoot_eq_runVisits (tolerant : Bool) (members : List (String × Node))
    (document : Json) :
    checkRoot tolerant members document = runVisits tolerant (rootVisits members document) := by
  have hrest := checkMembers_eq_runVisits
    (fun member (_ : member ∈ members) => member.2.check_eq_runVisits tolerant) []
    document.members?
  have hroot : Path.render [] = "" := rfl
  rw [hroot] at hrest
  rw [checkRoot, rootVisits, runVisits_append, ← hrest]
  split
  · rw [runVisits_objectVisit]
    simp [hroot]
  · simp [runVisits]

end Conform
