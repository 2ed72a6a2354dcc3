import Conform.Entries
import Conform.Proofs.Documents
import Conform.Proofs.Paths

/-!
# What a log makes below a path

Entries that are written at or below one path never touch anything else, so the document that a log
leaves behind can be read off part by part.  This file defines:

* `Writes`: a log with the steps of its paths, and `Json.writeAll`: a document after all of them;
* `Writes.under` and `Writes.result`: writes moved below a place, and what they leave at an empty
  one;
* `Makes`, `MakesMembers`, `MakesItems`: the value, the members and the items that the entries below
  a path make there;

and proves how the parts of an object or of an array make the whole.
-/

namespace Conform

/-! ## Writes -/

/-- Values in the order in which they are written, each with the steps to its place. -/
abbrev Writes := List (List Segment × Json)

/-- The entries of a log with the steps of their paths. -/
def Entries.writes (entries : Entries) : Writes :=
  entries.map fun (path, value) => (tokenize path, value)

namespace Writes

/-- The same writes below a place. -/
def under (steps : List Segment) (writes : Writes) : Writes :=
  writes.map fun (rest, value) => (steps ++ rest, value)

@[simp] theorem under_nil (steps : List Segment) : under steps [] = [] := rfl

@[simp] theorem under_append (steps : List Segment) (first second : Writes) :
    under steps (first ++ second) = under steps first ++ under steps second :=
  List.map_append

@[simp] theorem under_cons (steps rest : List Segment) (value : Json) (writes : Writes) :
    under steps ((rest, value) :: writes) = (steps ++ rest, value) :: under steps writes := rfl

theorem under_under (outer inner : List Segment) (writes : Writes) :
    under outer (under inner writes) = under (outer ++ inner) writes := by
  simp [under]

theorem under_no_steps (writes : Writes) : under [] writes = writes := by
  simp [under]

end Writes

namespace Json

/-- A document after all writes. -/
def writeAll (document : Json) (writes : Writes) : Json :=
  writes.foldl (fun document (steps, value) => document.writeAt steps value) document

@[simp] theorem writeAll_cons (document : Json) (steps : List Segment) (value : Json)
    (writes : Writes) :
    document.writeAll ((steps, value) :: writes) = (document.writeAt steps value).writeAll writes :=
  rfl

theorem writeAll_append (document : Json) (first second : Writes) :
    document.writeAll (first ++ second) = (document.writeAll first).writeAll second :=
  List.foldl_append

end Json

theorem rebuild_eq_writeAll (entries : Entries) :
    rebuild entries = (Json.object []).writeAll entries.writes := by
  unfold rebuild Json.writeAll Entries.writes
  rw [List.foldl_map]
  rfl

theorem writes_append (first second : Entries) :
    Entries.writes (first ++ second) = Entries.writes first ++ Entries.writes second :=
  List.map_append

/-! ## Writes below one member or item -/

namespace Json

/-- The items of an array; anything else has none. -/
def itemsOrNone : Json → List Json
  | array items => items
  | _ => []

theorem itemsUpTo_eq (document : Json) (position : Nat) :
    document.itemsUpTo position =
      document.itemsOrNone ++
        List.replicate (position + 1 - document.itemsOrNone.length) null := by
  cases document <;> simp [itemsUpTo, itemsOrNone]

/-- Writes below a member change that member alone. -/
theorem writeAll_under_key (name : String) {writes : Writes} (h : writes ≠ []) (old : Json) :
    old.writeAll (writes.under [.key name]) =
      object (insert name (((lookup name old.membersOrNone).getD null).writeAll writes)
        old.membersOrNone) := by
  induction writes generalizing old with
  | nil => exact absurd rfl h
  | cons write rest ih =>
      rcases write with ⟨steps, value⟩
      simp only [Writes.under_cons, writeAll_cons, List.singleton_append, writeAt]
      rcases eq_or_ne rest [] with rfl | hrest
      · rfl
      · -- The second write finds what the first one left under the name.
        rw [ih hrest]
        simp only [membersOrNone, lookup_insert_self, insert_insert_self, Option.getD_some]

/-- Writes below an item change that item alone, after filling up to it. -/
theorem writeAll_under_index (position : Nat) {writes : Writes} (h : writes ≠ []) (old : Json) :
    old.writeAll (writes.under [.index position]) =
      array ((old.itemsUpTo position).set position
        (((old.itemsUpTo position)[position]?.getD null).writeAll writes)) := by
  induction writes generalizing old with
  | nil => exact absurd rfl h
  | cons write rest ih =>
      rcases write with ⟨steps, value⟩
      simp only [Writes.under_cons, writeAll_cons, List.singleton_append, writeAt]
      rcases eq_or_ne rest [] with rfl | hrest
      · rfl
      · rw [ih hrest]
        have hlength : position < (old.itemsUpTo position).length := by
          rw [itemsUpTo_eq, List.length_append, List.length_replicate]
          omega
        -- The array is long enough after the first write.
        have hfilled : ∀ item, (array ((old.itemsUpTo position).set position item)).itemsUpTo
            position = (old.itemsUpTo position).set position item := by
          intro item
          rw [itemsUpTo_eq]
          simp only [itemsOrNone, List.length_set]
          rw [Nat.sub_eq_zero_of_le hlength, List.replicate_zero, List.append_nil]
        simp only [hfilled, List.set_set, List.getElem?_set_self hlength, Option.getD_some]

end Json

/-- What writes leave where nothing stood; nothing when there are none. -/
def Writes.result : Writes → Option Json
  | [] => none
  | writes => some (Json.null.writeAll writes)

theorem Writes.result_eq_none_iff {writes : Writes} : writes.result = none ↔ writes = [] := by
  cases writes <;> simp [result]

theorem Writes.result_eq_some_iff {writes : Writes} {value : Json} :
    writes.result = some value ↔ writes ≠ [] ∧ Json.null.writeAll writes = value := by
  cases writes <;> simp [result]

/-- Writes below a member that is not there add it at the end. -/
theorem Json.writeAll_under_new_key {old : Json} {name : String} {writes : Writes} {value : Json}
    (hnew : lookup name old.membersOrNone = none) (h : writes.result = some value) :
    old.writeAll (writes.under [.key name]) = object (old.membersOrNone ++ [(name, value)]) := by
  rcases Writes.result_eq_some_iff.1 h with ⟨hne, hvalue⟩
  rw [writeAll_under_key name hne, hnew, Option.getD_none, hvalue, insert_of_lookup_eq_none hnew]

/-- Writes below the first item that is not there add it at the end. -/
theorem Json.writeAll_under_new_index {old : Json} {writes : Writes} {value : Json}
    (h : writes.result = some value) :
    old.writeAll (writes.under [.index old.itemsOrNone.length]) =
      array (old.itemsOrNone ++ [value]) := by
  rcases Writes.result_eq_some_iff.1 h with ⟨hne, hvalue⟩
  have hitems : old.itemsUpTo old.itemsOrNone.length = old.itemsOrNone ++ [null] := by
    rw [itemsUpTo_eq]
    simp
  rw [writeAll_under_index _ hne, hitems]
  simp [hvalue]

/-! ## Adding members and items -/

namespace Json

/-- An object with more members at its end; anything else gives place to an object when there are
members to add. -/
def addMembers (old : Json) : List (String × Json) → Json
  | [] => old
  | member :: rest => object (old.membersOrNone ++ member :: rest)

/-- An array with more items at its end; anything else gives place to an array when there are items
to add. -/
def addItems (old : Json) : List Json → Json
  | [] => old
  | item :: rest => array (old.itemsOrNone ++ item :: rest)

theorem membersOrNone_addMembers (old : Json) (members : List (String × Json)) :
    (old.addMembers members).membersOrNone = old.membersOrNone ++ members := by
  cases members with
  | nil => simp [addMembers]
  | cons member rest => rfl

theorem itemsOrNone_addItems (old : Json) (items : List Json) :
    (old.addItems items).itemsOrNone = old.itemsOrNone ++ items := by
  cases items with
  | nil => simp [addItems]
  | cons item rest => rfl

theorem addMembers_append (old : Json) (first second : List (String × Json)) :
    old.addMembers (first ++ second) = (old.addMembers first).addMembers second := by
  cases first with
  | nil => rfl
  | cons member rest =>
      cases second with
      | nil => simp [addMembers]
      | cons other others => simp [addMembers, membersOrNone]

theorem addItems_append (old : Json) (first second : List Json) :
    old.addItems (first ++ second) = (old.addItems first).addItems second := by
  cases first with
  | nil => rfl
  | cons item rest =>
      cases second with
      | nil => simp [addItems]
      | cons other others => simp [addItems, itemsOrNone]

theorem addMembers_object (base members : List (String × Json)) :
    (object base).addMembers members = object (base ++ members) := by
  cases members with
  | nil => simp [addMembers]
  | cons member rest => rfl

theorem addItems_array (base items : List Json) :
    (array base).addItems items = array (base ++ items) := by
  cases items with
  | nil => simp [addItems]
  | cons item rest => rfl

end Json

/-- The object of some members, if there are any. -/
def objectOf? : List (String × Json) → Option Json
  | [] => none
  | member :: rest => some (.object (member :: rest))

/-- A member of a name, if there is a value for it. -/
def memberOf (name : String) (value : Option Json) : List (String × Json) :=
  (value.map fun value => (name, value)).toList

theorem lookup_memberOf_append {name : String} {made : List (String × Json)}
    {result : Option Json} (hnew : name ∉ made.map (·.1)) :
    Json.lookup name (memberOf name result ++ made) = result := by
  have hrest : Json.lookup name made = none := Json.lookup_eq_none_iff.2 hnew
  cases result with
  | none => exact hrest
  | some value => simp [memberOf, Json.lookup]

theorem keys_memberOf_append {made : List (String × Json)} {names : List String}
    (h : made.map (·.1) ⊆ names) (name : String) (result : Option Json) :
    (memberOf name result ++ made).map (·.1) ⊆ name :: names := by
  cases result with
  | none => exact List.subset_cons_of_subset name h
  | some value => exact List.cons_subset_cons name h

theorem lookup_memberOf_append_of_ne {name other : String} (h : name ≠ other)
    (result : Option Json) (made : List (String × Json)) :
    Json.lookup other (memberOf name result ++ made) = Json.lookup other made := by
  cases result with
  | none => rfl
  | some value => simp [memberOf, Json.lookup, h]

/-! ## The parts of a whole -/

/-- The entries, all of them at or below a path, leave this value there; nothing when there are
none. -/
def Makes (path : String) (entries : Entries) (result : Option Json) : Prop :=
  ∃ writes : Writes, entries.writes = writes.under (tokenize path) ∧ writes.result = result

/-- The entries below a path add these members to any object that has none of the names. -/
def MakesMembers (path : String) (entries : Entries) (names : List String)
    (members : List (String × Json)) : Prop :=
  ∃ writes : Writes, entries.writes = writes.under (tokenize path) ∧
    (members = [] → writes = []) ∧
    ∀ old : Json, (∀ name ∈ names, Json.lookup name old.membersOrNone = none) →
      old.writeAll writes = old.addMembers members

/-- The entries below a path add these items to any array that ends before the first of them. -/
def MakesItems (path : String) (position : Nat) (entries : Entries) (items : List Json) : Prop :=
  ∃ writes : Writes, entries.writes = writes.under (tokenize path) ∧
    (items = [] → writes = []) ∧
    ∀ old : Json, old.itemsOrNone.length = position → old.writeAll writes = old.addItems items

theorem Makes.none (path : String) : Makes path [] none := ⟨[], rfl, rfl⟩

/-- A single entry leaves its value. -/
theorem Makes.entry (path : String) (value : Json) : Makes path [(path, value)] (some value) := by
  refine ⟨[([], value)], ?_, ?_⟩
  · simp [Entries.writes]
  · cases value <;> rfl

/-! ### Members -/

theorem MakesMembers.nil (path : String) : MakesMembers path [] [] [] :=
  ⟨[], rfl, fun _ => rfl, fun _ _ => rfl⟩

/-- One more member ahead of the others. -/
theorem MakesMembers.cons {path name : String} {first rest : Entries} {result : Option Json}
    {names : List String} {members : List (String × Json)} (hpath : Path.Closed path)
    (hname : IsPlainName name) (hnew : name ∉ names)
    (hfirst : Makes (Path.child path name) first result)
    (hrest : MakesMembers path rest names members) :
    MakesMembers path (first ++ rest) (name :: names) (memberOf name result ++ members) := by
  rcases hfirst with ⟨writes, hwrites, hresult⟩
  rcases hrest with ⟨others, hothers, hnone, hadds⟩
  have hread : Entries.writes (first ++ rest) =
      (writes.under [.key name] ++ others).under (tokenize path) := by
    rw [writes_append, hwrites, hothers, tokenize_child hpath hname, Writes.under_append,
      Writes.under_under]
  cases result with
  | none =>
      have hwrites : writes = [] := Writes.result_eq_none_iff.1 hresult
      subst hwrites
      exact ⟨others, hread, hnone, fun old hold =>
        hadds old (fun other hother => hold other (List.mem_cons_of_mem name hother))⟩
  | some value =>
      refine ⟨writes.under [.key name] ++ others, hread, ?_, ?_⟩
      · intro hmembers
        simp [memberOf] at hmembers
      · intro old hold
        have hfirst : old.writeAll (writes.under [.key name]) = old.addMembers [(name, value)] :=
          Json.writeAll_under_new_key (hold name List.mem_cons_self) hresult
        rw [Json.writeAll_append, hfirst, Json.addMembers_append]
        -- The other names are not in the object that the first member leaves.
        apply hadds
        intro other hother
        have hne : name ≠ other := fun heq => hnew (heq ▸ hother)
        have hold' := hold other (List.mem_cons_of_mem name hother)
        simp [Json.membersOrNone_addMembers, Json.lookup_append, hold', Json.lookup, hne]

/-- Members make an object where nothing stood, if there are any. -/
theorem MakesMembers.makes_absent {path : String} {entries : Entries} {names : List String}
    {members : List (String × Json)} (h : MakesMembers path entries names members) :
    Makes path entries (objectOf? members) := by
  rcases h with ⟨writes, hwrites, hnone, hadds⟩
  refine ⟨writes, hwrites, ?_⟩
  have hnull : Json.null.writeAll writes = Json.null.addMembers members :=
    hadds .null (fun _ _ => rfl)
  cases members with
  | nil =>
      rw [hnone rfl]
      rfl
  | cons member rest =>
      refine Writes.result_eq_some_iff.2 ⟨?_, hnull⟩
      rintro rfl
      exact Json.noConfusion hnull

/-- Members make an object after an object that has none of them. -/
theorem MakesMembers.makes_object {path : String} {entries : Entries} {names : List String}
    {members : List (String × Json)} (h : MakesMembers path entries names members)
    {base : List (String × Json)} (hbase : ∀ name ∈ names, Json.lookup name base = none) :
    Makes path ((path, .object base) :: entries) (some (.object (base ++ members))) := by
  rcases h with ⟨writes, hwrites, -, hadds⟩
  refine ⟨([], .object base) :: writes, ?_, ?_⟩
  · simp [Entries.writes, ← hwrites]
  · refine Writes.result_eq_some_iff.2 ⟨List.cons_ne_nil _ _, ?_⟩
    have hobject : Json.null.writeAt [] (.object base) = .object base := rfl
    rw [Json.writeAll_cons, hobject, hadds (.object base) hbase, Json.addMembers_object]

/-! ### Items -/

theorem MakesItems.nil (path : String) (position : Nat) : MakesItems path position [] [] :=
  ⟨[], rfl, fun _ => rfl, fun _ _ => rfl⟩

/-- One more item ahead of the others. -/
theorem MakesItems.cons {path : String} {position : Nat} {first rest : Entries} {item : Json}
    {items : List Json} (hpath : Path.Closed path) (hposition : position < 2 ^ 64)
    (hfirst : Makes (Path.item path position) first (some item))
    (hrest : MakesItems path (position + 1) rest items) :
    MakesItems path position (first ++ rest) (item :: items) := by
  rcases hfirst with ⟨writes, hwrites, hresult⟩
  rcases hrest with ⟨others, hothers, -, hadds⟩
  refine ⟨writes.under [.index position] ++ others, ?_, ?_, ?_⟩
  · rw [writes_append, hwrites, hothers, tokenize_item hpath hposition, Writes.under_append,
      Writes.under_under]
  · intro hitems
    exact absurd hitems (List.cons_ne_nil item items)
  · intro old hold
    subst hold
    have hfirst : old.writeAll (writes.under [.index old.itemsOrNone.length]) =
        old.addItems [item] := Json.writeAll_under_new_index hresult
    have hsplit : old.addItems (item :: items) = (old.addItems [item]).addItems items :=
      Json.addItems_append old [item] items
    rw [Json.writeAll_append, hfirst, hsplit]
    apply hadds
    simp [Json.itemsOrNone_addItems]

/-- Items make an array after an empty array. -/
theorem MakesItems.makes_array {path : String} {entries : Entries} {items : List Json}
    (h : MakesItems path 0 entries items) :
    Makes path ((path, .array []) :: entries) (some (.array items)) := by
  rcases h with ⟨writes, hwrites, -, hadds⟩
  refine ⟨([], .array []) :: writes, ?_, ?_⟩
  · simp [Entries.writes, ← hwrites]
  · refine Writes.result_eq_some_iff.2 ⟨List.cons_ne_nil _ _, ?_⟩
    have harray : Json.null.writeAt [] (.array []) = .array [] := rfl
    rw [Json.writeAll_cons, harray, hadds (.array []) rfl, Json.addItems_array, List.nil_append]

/-- Items make an array where nothing stood, if there are any. -/
theorem MakesItems.makes_absent {path : String} {entries : Entries} {item : Json}
    {rest : List Json} (h : MakesItems path 0 entries (item :: rest)) :
    Makes path entries (some (.array (item :: rest))) := by
  rcases h with ⟨writes, hwrites, -, hadds⟩
  have hnull : Json.null.writeAll writes = .array (item :: rest) := hadds .null rfl
  refine ⟨writes, hwrites, Writes.result_eq_some_iff.2 ⟨?_, hnull⟩⟩
  rintro rfl
  exact Json.noConfusion hnull

/-! ### Whole documents -/

namespace Json

/-- Of members with keys of their own, those are added whose keys are new. -/
theorem mergeMembers_eq_filter {incoming : List (String × Json)}
    (hkeys : (incoming.map (·.1)).Nodup) (members : List (String × Json)) :
    mergeMembers members incoming =
      members ++ incoming.filter fun member => (lookup member.1 members).isNone := by
  induction incoming generalizing members with
  | nil => rw [mergeMembers, List.filter_nil, List.append_nil]
  | cons member rest ih =>
      rcases member with ⟨key, value⟩
      obtain ⟨hnew, hkeys⟩ := List.nodup_cons.1 hkeys
      cases hlookup : lookup key members with
      | some _ => simp [mergeMembers, hlookup, ih hkeys]
      | none =>
          -- The member that is added hides none of those after it.
          have hrest : ∀ other ∈ rest, (lookup other.1 (members ++ [(key, value)])).isNone =
              (lookup other.1 members).isNone := by
            intro other hother
            have hne : key ≠ other.1 := by
              rintro rfl
              exact hnew (List.mem_map.2 ⟨other, hother, rfl⟩)
            simp [lookup_append, lookup, hne]
          simp [mergeMembers, hlookup, ih hkeys, List.filter_congr hrest]

/-- New members all go to the end. -/
theorem mergeMembers_eq_append {members incoming : List (String × Json)}
    (h : ((members ++ incoming).map (·.1)).Nodup) :
    mergeMembers members incoming = members ++ incoming := by
  rw [List.map_append] at h
  obtain ⟨-, hkeys, hnew⟩ := List.nodup_append.1 h
  have hall : ∀ member ∈ incoming, (lookup member.1 members).isNone = true := by
    intro member hmember
    rw [Option.isNone_iff_eq_none, lookup_eq_none_iff]
    intro hmem
    exact hnew _ hmem _ (List.mem_map.2 ⟨member, hmember, rfl⟩) rfl
  rw [mergeMembers_eq_filter hkeys, List.filter_eq_self.2 hall]

/-- The empty object gives place to any document that lists no key twice. -/
theorem place_empty_object {value : Json} (h : value.IsTidy) :
    place (object []) value = value := by
  cases value with
  | object members => exact congrArg object (mergeMembers_eq_append h)
  | _ => rfl

end Json

/-- Members after an object at the root make the members of the document. -/
theorem MakesMembers.rebuild_object {entries : Entries} {names : List String}
    {members : List (String × Json)} (h : MakesMembers "" entries names members)
    {base : List (String × Json)} (hkeys : (base.map (·.1)).Nodup)
    (hbase : ∀ name ∈ names, Json.lookup name base = none) :
    Conform.rebuild (("", .object base) :: entries) = .object (base ++ members) := by
  rcases h with ⟨writes, hwrites, -, hadds⟩
  have hroot : Entries.writes (("", .object base) :: entries) = ([], .object base) :: writes := by
    have hentries : Entries.writes entries = writes := by
      rw [hwrites]
      exact Writes.under_no_steps writes
    exact congrArg (([], Json.object base) :: ·) hentries
  have hplace : (Json.object []).writeAt [] (.object base) = .object base :=
    Json.place_empty_object hkeys
  rw [rebuild_eq_writeAll, hroot, Json.writeAll_cons, hplace, hadds (.object base) hbase,
    Json.addMembers_object]

/-- Members below the empty path make the members of the document. -/
theorem MakesMembers.rebuild {entries : Entries} {names : List String}
    {members : List (String × Json)} (h : MakesMembers "" entries names members) :
    Conform.rebuild entries = .object members := by
  rcases h with ⟨writes, hwrites, -, hadds⟩
  have hroot : Entries.writes entries = writes := by
    rw [hwrites]
    exact Writes.under_no_steps writes
  rw [rebuild_eq_writeAll, hroot, hadds _ (fun _ _ => rfl), Json.addMembers_object, List.nil_append]

/-- Items below the empty path make the document an array, if there are any. -/
theorem MakesItems.rebuild {entries : Entries} {item : Json} {rest : List Json}
    (h : MakesItems "" 0 entries (item :: rest)) :
    Conform.rebuild entries = .array (item :: rest) := by
  rcases h with ⟨writes, hwrites, -, hadds⟩
  have hroot : Entries.writes entries = writes := by
    rw [hwrites]
    exact Writes.under_no_steps writes
  rw [rebuild_eq_writeAll, hroot]
  exact hadds _ rfl

end Conform
