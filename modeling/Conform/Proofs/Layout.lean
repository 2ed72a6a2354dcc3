import Conform.Proofs.Conforming
import Conform.Proofs.Frames
import Conform.Proofs.Places

/-!
# How a log lies over a tree

The log of a document is written along the tree, a container ahead of what it holds.  This file
defines:

* `Node.Leaves`: what a node leaves in the log where it meets a value;
* `Node.Fits`: a write at a place of a tree;
* `Laid`: ordered entries below some steps, each of them of one sort;
* `Writes.ReadBack`: writes whose steps are read back from the paths of their entries;
* `Entries.LaidOut`: a log each of whose entries has a place of its own, containers first, and is
  found at its place in the document that is rebuilt.

The main statement is `validateFlat_laidOut`: the log of a document that passes is laid out.
-/

namespace Conform

/-! ## Writes at places -/

/-- What a node leaves in the log where it meets a value: a container that awaits its parts, an
empty value as it is, and for a field whatever the field makes. -/
def Node.Leaves : Node → Option Json → Json → Prop
  | field _, _, _ => True
  | object members, reached, written =>
    (∃ given, reached = some (.object given) ∧ written = .object (keptMembers members given)) ∨
      (reached = some written ∧ written.isEmpty = true)
  | array _, reached, written =>
    (∃ items, reached = some (.array items) ∧ written = .array []) ∨
      (reached = some written ∧ written.isEmpty = true)

/-- A write at a place of a tree. -/
def Node.Fits (node : Node) (value : Option Json) (write : List Segment × Json) : Prop :=
  ∃ target reached, node.place? value write.1 = some (target, reached) ∧
    target.Leaves reached write.2

/-- A write at a place below one of some members. -/
def MemberFits (members : List (String × Node)) (given : Option (List (String × Json)))
    (write : List Segment × Json) : Prop :=
  ∃ member ∈ members, ∃ rest, write.1 = .key member.1 :: rest ∧
    member.2.Fits (given.bind (Json.lookup member.1)) (rest, write.2)

/-- A write at a place at or below an item. -/
def ElementFits (node : Node) (element : Json) (write : List Segment × Json) : Prop :=
  (node.isObject = true → element.isObject = true ∨ write.1 = []) ∧
    node.Fits (some element) write

/-- A write at a place below one of some items, the first of them at a position. -/
def ItemFits (node : Node) (position : Nat) (items : List Json)
    (write : List Segment × Json) : Prop :=
  ∃ offset element rest, items[offset]? = some element ∧
    write.1 = .index (position + offset) :: rest ∧ ElementFits node element (rest, write.2)

variable {base : List Segment} {p q : List Segment × Json → Prop}

theorem Node.fits_of_memberFits {members : List (String × Node)}
    (hnames : (members.map (·.1)).Nodup) {value : Option Json} {write : List Segment × Json}
    (h : MemberFits members (value.bind Json.members?) write) :
    (Node.object members).Fits value write := by
  rcases write with ⟨steps, written⟩
  rcases h with ⟨⟨name, child⟩, hmember, rest, rfl, target, reached, hplace, hleaves⟩
  refine ⟨target, reached, ?_, hleaves⟩
  have hchild : Json.lookup name members = some child := Json.lookup_of_mem hnames hmember
  rw [Option.bind_assoc] at hplace
  simp only [place?, hchild, Option.bind_some]
  exact hplace

theorem Node.fits_of_itemFits {node : Node} {items : List Json} {write : List Segment × Json}
    (h : ItemFits node 0 items write) : (Node.array node).Fits (some (.array items)) write := by
  rcases write with ⟨steps, written⟩
  rcases h with ⟨position, element, rest, helement, rfl, hshape, target, reached, hplace, hleaves⟩
  refine ⟨target, reached, ?_, hleaves⟩
  have hguard : (node.isObject && !element.isObject && !rest.isEmpty) = false := by
    cases hnode : node.isObject with
    | false => rfl
    | true =>
        rcases hshape hnode with hobject | hnil
        · simp [hobject]
        · obtain rfl : rest = [] := hnil
          simp
  simp only [place?, Option.bind_some, Json.step?, Json.items?, Nat.zero_add, helement, hguard]
  exact hplace

/-! ## Entries below some steps -/

/-- Writes as entries, below some steps. -/
def Writes.entries (base : List Segment) (writes : Writes) : Entries :=
  writes.map fun (steps, value) => (Path.render (base ++ steps), value)

/-- Ordered entries below some steps, each of them of one sort. -/
def Laid (base : List Segment) (p : List Segment × Json → Prop) (entries : Entries) : Prop :=
  ∃ writes : Writes, entries = writes.entries base ∧ writes.Ordered ∧ ∀ write ∈ writes, p write

namespace Laid

theorem nil : Laid base p [] := ⟨[], rfl, List.Pairwise.nil, by simp⟩

theorem mono {entries : Entries} (h : Laid base p entries) (hpq : ∀ write, p write → q write) :
    Laid base q entries := by
  rcases h with ⟨writes, hentries, hordered, hall⟩
  exact ⟨writes, hentries, hordered, fun write hwrite => hpq write (hall write hwrite)⟩

theorem append {first second : Entries} (hfirst : Laid base p first) (hsecond : Laid base q second)
    (hapart : ∀ one other, p one → q other → Apart one.1 other.1) :
    Laid base (fun write => p write ∨ q write) (first ++ second) := by
  rcases hfirst with ⟨writes, rfl, hordered, hall⟩
  rcases hsecond with ⟨others, rfl, hothers, hall'⟩
  refine ⟨writes ++ others, ?_, List.pairwise_append.2 ⟨hordered, hothers, ?_⟩, ?_⟩
  · exact List.map_append.symm
  · intro one hone other hother
    exact Or.inl (hapart one other (hall one hone) (hall' other hother))
  · intro write hwrite
    rcases List.mem_append.1 hwrite with hmem | hmem
    · exact Or.inl (hall write hmem)
    · exact Or.inr (hall' write hmem)

/-- A container ahead of entries that it awaits. -/
theorem cons {entries : Entries} (h : Laid base p entries) {value : Json}
    (hawaits : ∀ write, p write → ∃ step rest, write.1 = step :: rest ∧ value.Awaits step) :
    Laid base (fun write => write = ([], value) ∨ p write)
      ((Path.render base, value) :: entries) := by
  rcases h with ⟨writes, rfl, hordered, hall⟩
  refine ⟨([], value) :: writes, ?_, List.pairwise_cons.2 ⟨?_, hordered⟩, ?_⟩
  · simp [Writes.entries]
  · intro write hwrite
    rcases hawaits write (hall write hwrite) with ⟨step, rest, hsteps, hstep⟩
    exact Or.inr ⟨step, rest, hsteps, hstep⟩
  · intro write hwrite
    rcases List.mem_cons.1 hwrite with heq | hmem
    · exact Or.inl heq
    · exact Or.inr (hall write hmem)

/-- Entries below a step, seen from above the step. -/
theorem above {step : Segment} {entries : Entries} (h : Laid (base ++ [step]) p entries) :
    Laid base (fun write => ∃ rest, write.1 = step :: rest ∧ p (rest, write.2)) entries := by
  rcases h with ⟨writes, rfl, hordered, hall⟩
  refine ⟨writes.under [step], ?_, ?_, ?_⟩
  · simp [Writes.entries, Writes.under]
  · refine List.pairwise_map.2 (hordered.imp ?_)
    rintro one other (hapart | ⟨next, rest, hsteps, hawaits⟩)
    · exact Or.inl (hapart.under [step])
    · exact Or.inr ⟨next, rest, by simp [hsteps], hawaits⟩
  · intro write hwrite
    rcases List.mem_map.1 hwrite with ⟨⟨rest, value⟩, hmem, rfl⟩
    exact ⟨rest, rfl, hall _ hmem⟩

theorem single {value : Json} (h : p ([], value)) : Laid base p [(Path.render base, value)] := by
  have hnone : Laid base (fun _ => False) [] := nil
  have hcons : Laid base (fun write => write = ([], value) ∨ False) [(Path.render base, value)] :=
    hnone.cons (fun _ hfalse => hfalse.elim)
  refine hcons.mono ?_
  rintro write (rfl | hfalse)
  · exact h
  · exact hfalse.elim

end Laid

/-! ## The log of a tree -/

/-- A field writes one entry at most, at its own path. -/
theorem Field.check_laid (tolerant : Bool) (field : Field) (value : Option Json) :
    Run.Ensures (Laid base ((Node.field field).Fits value))
      (field.check tolerant (Path.render base) value) := by
  have hfits : ∀ output, (Node.field field).Fits value ([], output) :=
    fun output => ⟨.field field, value, Node.place?_nil _ _, trivial⟩
  cases value with
  | some given => exact Run.Ensures.bind (fun output => Run.Ensures.pure (Laid.single (hfits output)))
  | none =>
      simp only [check, checkAbsent]
      split
      · exact Run.Ensures.bind (fun output => Run.Ensures.pure (Laid.single (hfits output)))
      · split
        · exact Run.Ensures.throw _
        · exact Run.Ensures.pure Laid.nil

theorem checkMembers_laid {tolerant : Bool} {members : List (String × Node)}
    (hnames : (members.map (·.1)).Nodup) (given : Option (List (String × Json)))
    (hparts : ∀ member ∈ members, ∀ base value,
      Run.Ensures (Laid base (member.2.Fits value))
        (member.2.check tolerant (Path.render base) value)) :
    Run.Ensures (Laid base (MemberFits members given))
      (checkMembers tolerant members (Path.render base) given) := by
  induction members with
  | nil => exact Run.Ensures.pure Laid.nil
  | cons member rest ih =>
      rcases member with ⟨name, node⟩
      have hnodup := List.nodup_cons.1 hnames
      have hfirst := hparts (name, node) List.mem_cons_self (base ++ [.key name])
        (given.bind (Json.lookup name))
      have hrest := ih hnodup.2 (fun other hother => hparts other (List.mem_cons_of_mem _ hother))
      rw [render_append_key] at hfirst
      refine Run.Ensures.bind_of hfirst ?_
      intro first hfirst
      refine Run.Ensures.bind_of hrest ?_
      intro others hothers
      refine Run.Ensures.pure ((hfirst.above.append hothers ?_).mono ?_)
      · -- The other members have other names.
        rintro ⟨_, _⟩ ⟨_, _⟩ ⟨below, rfl, -⟩ ⟨other, hother, below', rfl, -⟩
        refine Apart.key ?_ below below'
        rintro rfl
        exact hnodup.1 (List.mem_map.2 ⟨other, hother, rfl⟩)
      · rintro write (⟨below, hsteps, hfits⟩ | ⟨other, hother, hfits⟩)
        · exact ⟨(name, node), List.mem_cons_self, below, hsteps, hfits⟩
        · exact ⟨other, List.mem_cons_of_mem _ hother, hfits⟩

theorem checkItem_laid {node : Node} {element : Json} {check : Run Entries}
    (h : Run.Ensures (Laid base (node.Fits (some element))) check) :
    Run.Ensures (Laid base (ElementFits node element))
      (checkItem node check (Path.render base) element) := by
  unfold checkItem
  split
  · next hshape =>
      -- Such an item has no places below it, and writes nothing but itself.
      have hnode : node.isObject = true := (Bool.and_eq_true_iff.1 hshape).1
      split
      · next hempty =>
          refine Run.Ensures.pure (Laid.single ⟨fun _ => Or.inr rfl, node, some element, ?_, ?_⟩)
          · exact Node.place?_nil node (some element)
          · cases node with
            | object members => exact Or.inr ⟨rfl, hempty⟩
            | field _ | array _ => cases hnode
      · exact Run.Ensures.throw _
  · next hshape =>
      have hobject : node.isObject = true → element.isObject = true := by
        intro hnode
        simpa [hnode] using hshape
      exact h.mono (fun entries hlaid =>
        hlaid.mono (fun write hfits => ⟨fun hnode => Or.inl (hobject hnode), hfits⟩))

theorem checkItems_laid {check : String → Json → Run Entries} {node : Node} {items : List Json}
    (hparts : ∀ element ∈ items, ∀ base,
      Run.Ensures (Laid base (ElementFits node element)) (check (Path.render base) element))
    (position : Nat) :
    Run.Ensures (Laid base (ItemFits node position items))
      (checkItems check (Path.render base) position items) := by
  induction items generalizing position with
  | nil => exact Run.Ensures.pure Laid.nil
  | cons item rest ih =>
      have hfirst := hparts item List.mem_cons_self (base ++ [.index position])
      have hrest := ih (fun other hother => hparts other (List.mem_cons_of_mem _ hother))
        (position + 1)
      rw [render_append_index] at hfirst
      refine Run.Ensures.bind_of hfirst ?_
      intro first hfirst
      refine Run.Ensures.bind_of hrest ?_
      intro others hothers
      refine Run.Ensures.pure ((hfirst.above.append hothers ?_).mono ?_)
      · -- The other items have greater numbers.
        rintro ⟨_, _⟩ ⟨_, _⟩ ⟨below, rfl, -⟩ ⟨offset, _, below', -, rfl, -⟩
        exact Apart.index (by omega) below below'
      · rintro write (⟨below, hsteps, hfits⟩ | ⟨offset, element, below, helement, hsteps, hfits⟩)
        · exact ⟨0, item, below, rfl, hsteps, hfits⟩
        · refine ⟨offset + 1, element, below, helement, ?_, hfits⟩
          rw [hsteps, Nat.add_assoc, Nat.add_comm 1 offset]

/-- What an object keeps awaits all of its members. -/
theorem awaits_keptMembers {members : List (String × Node)}
    {given' : Option (List (String × Json))} (given : List (String × Json))
    {write : List Segment × Json} (h : MemberFits members given' write) :
    ∃ step rest, write.1 = step :: rest ∧
      (Json.object (keptMembers members given)).Awaits step := by
  rcases h with ⟨member, hmember, rest, hsteps, -⟩
  have hname : member.1 ∈ members.map (·.1) := List.mem_map.2 ⟨member, hmember, rfl⟩
  exact ⟨.key member.1, rest, hsteps, lookup_keptMembers hname given⟩

/-- The log of a tree is laid out below the steps to the tree. -/
theorem Node.check_laid {tolerant : Bool} {node : Node} (hnode : node.Everywhere HasPathNames)
    (base : List Segment) (value : Option Json) :
    Run.Ensures (Laid base (node.Fits value)) (node.check tolerant (Path.render base) value) := by
  induction node using Node.induct generalizing base value with
  | field field => exact field.check_laid tolerant value
  | object members ih =>
      rcases everywhere_object.1 hnode with ⟨⟨hnames, -⟩, hforms⟩
      have hmembers : Run.Ensures (Laid base (MemberFits members (value.bind Json.members?)))
          (checkMembers tolerant members (Path.render base) (value.bind Json.members?)) :=
        checkMembers_laid hnames _
          (fun member hmember base value => ih member hmember (hforms member hmember) base value)
      refine Run.Ensures.bind_of hmembers ?_
      intro rest hrest
      refine Run.Ensures.pure ?_
      cases value with
      | none => exact hrest.mono (fun write => fits_of_memberFits hnames)
      | some document =>
          cases document with
          | object given =>
              refine (hrest.cons (fun write => awaits_keptMembers given)).mono ?_
              rintro write (rfl | hfits)
              · exact ⟨_, _, place?_nil _ _, Or.inl ⟨given, rfl, rfl⟩⟩
              · exact fits_of_memberFits hnames hfits
          | null | bool _ | number _ | string _ | array _ =>
              exact hrest.mono (fun write => fits_of_memberFits hnames)
  | array item ih =>
      cases value with
      | none => exact Run.Ensures.pure Laid.nil
      | some document =>
          simp only [Node.check]
          split
          · next hempty =>
              refine Run.Ensures.pure (Laid.single ⟨_, _, place?_nil _ _, ?_⟩)
              exact Or.inr ⟨rfl, hempty⟩
          · cases document with
            | array items =>
                have hitems : Run.Ensures (Laid base (ItemFits item 0 items))
                    (checkItems (fun path element =>
                      checkItem item (item.check tolerant path (some element)) path element)
                      (Path.render base) 0 items) := by
                  refine checkItems_laid ?_ 0
                  intro element _ base
                  exact checkItem_laid (ih hnode.2 base (some element))
                refine Run.Ensures.bind_of hitems ?_
                intro rest hrest
                refine Run.Ensures.pure ((hrest.cons ?_).mono ?_)
                · rintro write ⟨offset, _, below, -, hsteps, -⟩
                  exact ⟨_, below, hsteps, rfl⟩
                · rintro write (rfl | hfits)
                  · exact ⟨_, _, place?_nil _ _, Or.inl ⟨items, rfl, rfl⟩⟩
                  · exact fits_of_itemFits hfits
            | null | bool _ | number _ | string _ | object _ => exact Run.Ensures.throw _

/-- A root writes for itself only where it meets an object. -/
theorem checkRoot_laid {tolerant : Bool} {members : List (String × Node)}
    (hmembers : (Node.object members).Everywhere Node.HasPathNames) (document : Json) :
    Run.Ensures (Laid [] fun write => (write.1 = [] → document.isObject = true) ∧
        (Node.object members).Fits (some document) write)
      (checkRoot tolerant members document) := by
  rcases Node.everywhere_object.1 hmembers with ⟨⟨hnames, -⟩, hforms⟩
  have hparts : Run.Ensures (Laid [] (MemberFits members document.members?))
      (checkMembers tolerant members (Path.render []) document.members?) :=
    checkMembers_laid hnames _
      (fun member hmember base value => Node.check_laid (hforms member hmember) base value)
  have hbelow : ∀ write, MemberFits members document.members? write →
      (write.1 = [] → document.isObject = true) ∧
        (Node.object members).Fits (some document) write := by
    intro write hwrite
    refine ⟨?_, Node.fits_of_memberFits hnames hwrite⟩
    rcases hwrite with ⟨member, -, rest, hsteps, -⟩
    intro hnil
    exact absurd (hsteps.symm.trans hnil) (List.cons_ne_nil _ _)
  refine Run.Ensures.bind_of hparts ?_
  intro rest hrest
  refine Run.Ensures.pure ?_
  split
  · cases document with
    | object given =>
        refine (hrest.cons (fun write => awaits_keptMembers given)).mono ?_
        rintro write (rfl | hfits)
        · exact ⟨fun _ => rfl, _, _, Node.place?_nil _ _, Or.inl ⟨given, rfl, rfl⟩⟩
        · exact hbelow write hfits
    | null | bool _ | number _ | string _ | array _ => exact hrest.mono hbelow
  · exact hrest.mono hbelow

/-! ## Whole logs -/

/-- A log that lies over a tree. -/
structure Entries.LaidOut (members : List (String × Node)) (document : Json) (entries : Entries) :
    Prop where
  /-- No path is written twice. -/
  nodup : (entries.map (·.1)).Nodup
  /-- Each path is the written form of the steps to a place, is read back as those steps, and holds
  what the node of the place leaves there. -/
  placed : ∀ entry ∈ entries, ∃ steps target reached,
    (Node.object members).place? (some document) steps = some (target, reached) ∧
      entry.1 = Path.render steps ∧ tokenize entry.1 = steps ∧ target.Leaves reached entry.2
  /-- Whatever is written above another entry is written earlier, and is a container that awaits
  the other. -/
  nested : ∀ i j (hi : i < entries.length) (hj : j < entries.length) (step : Segment)
    (rest : List Segment), tokenize entries[j].1 = tokenize entries[i].1 ++ step :: rest →
      i < j ∧ entries[i].2.Awaits step
  /-- What is written for a field, and an empty value of any other place, is found in the rebuilt
  document. -/
  found : ∀ entry ∈ entries, ∀ target reached,
    (Node.object members).place? (some document) (tokenize entry.1) = some (target, reached) →
      (target.isField = true ∨ ∃ given ∈ reached, Json.isEmpty given = true) →
        (rebuild entries).at? (tokenize entry.1) = some entry.2

theorem Json.not_awaits_of_isEmpty {value : Json} (h : value.isEmpty = true) (step : Segment) :
    ¬ value.Awaits step := by
  cases value with
  | null | string _ => cases step <;> exact id
  | bool _ | number _ | array _ | object _ => cases h

theorem Json.standing_object_nil {steps : List Segment} (h : steps ≠ []) :
    (Json.object []).standing steps = .null := by
  cases steps with
  | nil => exact absurd rfl h
  | cons step rest => cases step <;> rfl

/-- What is written for a leaf awaits nothing that is written below it. -/
theorem Node.Leaves.not_awaits {node target : Node} {value reached : Option Json}
    {steps rest : List Segment} {step : Segment} {written : Json}
    (hplace : node.place? value steps = some (target, reached))
    (hleaves : target.Leaves reached written)
    (hleaf : target.isField = true ∨ ∃ given ∈ reached, Json.isEmpty given = true)
    {below : Node} {at' : Option Json}
    (hbelow : node.place? value (steps ++ step :: rest) = some (below, at')) :
    ¬ written.Awaits step := by
  rcases Node.place?_of_append hbelow with ⟨between, here, hfirst, hsecond⟩
  rw [hplace] at hfirst
  cases hfirst
  have hempty : ∀ container : Json, reached = some container → target.isField = false →
      container.isEmpty = true := by
    rintro container rfl hfield
    rcases hleaf with htrue | ⟨given, ⟨⟩, hgiven⟩
    · exact absurd (hfield.symm.trans htrue) (by decide)
    · exact hgiven
  cases target with
  -- A field has no places below it.
  | field f => cases step <;> cases hsecond
  | object members =>
      rcases hleaves with ⟨given, hreached, -⟩ | ⟨-, hwritten⟩
      · exact absurd (hempty _ hreached rfl) (by simp [Json.isEmpty])
      · exact Json.not_awaits_of_isEmpty hwritten step
  | array item =>
      rcases hleaves with ⟨items, hreached, -⟩ | ⟨-, hwritten⟩
      · exact absurd (hempty _ hreached rfl) (by simp [Json.isEmpty])
      · exact Json.not_awaits_of_isEmpty hwritten step

/-! ## Entries that are read back -/

namespace Writes

variable {writes : Writes}

/-- The steps of every write are read back from the path of its entry. -/
def ReadBack (writes : Writes) : Prop :=
  ∀ write ∈ writes, tokenize (Path.render write.1) = write.1

/-- Entries that are read back are the writes that they were made of. -/
theorem ReadBack.writes_entries (h : writes.ReadBack) : (writes.entries []).writes = writes := by
  simp only [Writes.entries, Entries.writes, List.map_map, List.nil_append]
  refine (List.map_congr_left ?_).trans (List.map_id writes)
  intro write hwrite
  exact Prod.ext (h write hwrite) rfl

/-- Paths of different steps are different, for each is read back as its steps. -/
theorem ReadBack.nodup_paths (h : writes.ReadBack) (hordered : writes.Ordered) :
    ((writes.entries []).map (·.1)).Nodup := by
  simp only [Writes.entries, List.map_map, List.Nodup, List.pairwise_map]
  refine hordered.imp_of_mem ?_
  intro one other hone hother hbefore heq
  have hsteps := congrArg tokenize heq
  simp only [Function.comp, List.nil_append, h one hone, h other hother] at hsteps
  exact hbefore.steps_ne hsteps

theorem ReadBack.getElem_entries (h : writes.ReadBack) {i : Nat}
    (hi : i < (writes.entries []).length) :
    ∃ hi' : i < writes.length, tokenize (writes.entries [])[i].1 = writes[i].1 ∧
      (writes.entries [])[i].2 = writes[i].2 := by
  have hi' : i < writes.length := by simpa [Writes.entries] using hi
  refine ⟨hi', ?_, by simp [Writes.entries]⟩
  have hentry : (writes.entries [])[i].1 = Path.render writes[i].1 := by simp [Writes.entries]
  rw [hentry]
  exact h _ (List.getElem_mem hi')

/-- Of ordered writes one above another comes first, and awaits it. -/
theorem Ordered.awaits_of_below (hordered : writes.Ordered) {i j : Nat} (hi : i < writes.length)
    (hj : j < writes.length) {step : Segment} {rest : List Segment}
    (hbelow : writes[j].1 = writes[i].1 ++ step :: rest) :
    i < j ∧ writes[i].2.Awaits step := by
  have hpairs := List.pairwise_iff_getElem.1 hordered
  rcases Nat.lt_trichotomy i j with hlt | rfl | hgt
  · exact ⟨hlt, (hpairs i j hi hj hlt).awaits hbelow⟩
  · have hlength := congrArg List.length hbelow
    simp at hlength
  · exact absurd hbelow (hpairs j i hj hi hgt).not_below

end Writes

/-- A root for which something is written is an object, so fields and empty values are found below
it. -/
theorem Node.place?_steps_ne_nil {members : List (String × Node)} {document : Json}
    {steps : List Segment} (hroot : steps = [] → document.isObject = true) {target : Node}
    {reached : Option Json}
    (hplace : (Node.object members).place? (some document) steps = some (target, reached))
    (hleaf : target.isField = true ∨ ∃ given ∈ reached, Json.isEmpty given = true) :
    steps ≠ [] := by
  rintro rfl
  rw [Node.place?_nil] at hplace
  cases hplace
  rcases hleaf with hfield | ⟨given, ⟨⟩, hempty⟩
  · cases hfield
  · cases document with
    | null | string _ => cases hroot rfl
    | bool _ | number _ | array _ | object _ => cases hempty

/-- A log that is laid below no steps at all lies over the tree. -/
theorem Laid.laidOut {members : List (String × Node)}
    (hmembers : (Node.object members).Everywhere Node.HasPathNames) {document : Json}
    (hdocument : document.WellFormed) {entries : Entries}
    (h : Laid [] (fun write => (write.1 = [] → document.isObject = true) ∧
      (Node.object members).Fits (some document) write) entries) :
    entries.LaidOut members document := by
  rcases h with ⟨writes, rfl, hordered, hall⟩
  have hread : writes.ReadBack := by
    intro write hwrite
    rcases (hall write hwrite).2 with ⟨target, reached, hplace, -⟩
    apply tokenize_render
    refine Node.isPlain_of_place? hmembers ?_ hplace
    rintro _ ⟨⟩
    exact hdocument
  refine ⟨hread.nodup_paths hordered, ?_, ?_, ?_⟩
  · intro entry hentry
    rcases List.mem_map.1 hentry with ⟨write, hwrite, rfl⟩
    rcases (hall write hwrite).2 with ⟨target, reached, hplace, hleaves⟩
    exact ⟨write.1, target, reached, hplace, rfl, hread write hwrite, hleaves⟩
  · intro i j hi hj step rest hbelow
    rcases hread.getElem_entries hi with ⟨hi', hsteps, hvalue⟩
    rcases hread.getElem_entries hj with ⟨hj', hsteps', -⟩
    rw [hsteps, hsteps'] at hbelow
    rw [hvalue]
    exact hordered.awaits_of_below hi' hj' hbelow
  · intro entry hentry target reached hplace hleaf
    rcases List.mem_map.1 hentry with ⟨write, hwrite, rfl⟩
    rcases hall write hwrite with ⟨hroot, target', reached', hplace', hleaves⟩
    simp only [List.nil_append, hread write hwrite] at hplace ⊢
    rw [hplace] at hplace'
    cases hplace'
    have hnonroot := Node.place?_steps_ne_nil hroot hplace hleaf
    rw [rebuild_eq_writeAll, hread.writes_entries]
    refine hordered.at?_writeAll hwrite ?_ (Json.standing_object_nil hnonroot)
    intro later hlater step rest hsteps
    rcases (hall later hlater).2 with ⟨below, at', hbelow, -⟩
    rw [hsteps] at hbelow
    exact Node.Leaves.not_awaits hplace hleaves hleaf hbelow

/-- The log of a document that passes lies over the tree of the schema. -/
theorem validateFlat_laidOut {options : Options} {registry : Registry} {definition : Definition}
    {schema : Schema} {document : Json}
    (hschema : (resolve options registry definition).result = .ok schema.members)
    (hcoerce : schema.options.coerce = true) (hdocument : document.WellFormed)
    {draws drawn : Draws} {entries : Entries}
    (h : (schema.validateFlat document).outcome draws = (.ok entries, drawn)) :
    entries.LaidOut schema.members document := by
  have hmembers := resolve_hasPathNames hschema
  rcases Run.outcome_bind_eq_ok h with ⟨written, between, hcheck, hlast⟩
  rw [hcoerce] at hlast
  cases hlast
  exact (checkRoot_laid hmembers document draws _ _ hcheck).laidOut hmembers hdocument

/-- The log of `nestedInput`: a container ahead of each item and member that it holds, and no key
that is not declared in any path. -/
def nestedLog : Entries :=
  [("name", .string "n"), ("tags", .array []), ("tags[0]", .object []),
    ("tags[0].id", .string "true"), ("tags[1]", .null), ("tags[2]", .object []),
    ("extra", .object [("a.b[0]", .string "kept")]), ("extra.inner.flag", .bool true)]

theorem laidOut_nestedLog :
    (resolve {} .builtin nestedDefinition).result = .ok nestedMembers ∧ nestedInput.WellFormed ∧
      (∀ draws, ((Schema.mk {} nestedMembers).validateFlat nestedInput).outcome draws =
        (.ok nestedLog, draws)) ∧
      nestedLog.LaidOut nestedMembers nestedInput := by
  have hresolve : (resolve {} .builtin nestedDefinition).result = .ok nestedMembers := rfl
  have hform : nestedInput.WellFormed := by
    simp [nestedInput, Json.WellFormed, Json.Everywhere, Json.EverywhereItems,
      Json.EverywhereMembers, Json.IsTidy]
  have hpasses : ∀ draws, ((Schema.mk {} nestedMembers).validateFlat nestedInput).outcome draws =
      (.ok nestedLog, draws) := fun _ => rfl
  exact ⟨hresolve, hform, hpasses,
    @validateFlat_laidOut {} .builtin nestedDefinition ⟨{}, nestedMembers⟩ nestedInput hresolve rfl
      hform _ _ _ (hpasses fun _ => 0)⟩

end Conform
