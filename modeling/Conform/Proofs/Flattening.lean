import Conform.Proofs.Rebuilding

/-!
# Flattening and rebuilding

The leaves of a document, written to their paths in order, make the document again.  This file
defines:

* `Json.HasPlainKeys`: no key at any depth could be taken for punctuation in a path;

and proves the round trip of a document through its leaves.
-/

namespace Conform

namespace Json

/-- The keys of an object can stand in a path. -/
def KeysArePlain : Json → Prop
  | object members => ∀ member ∈ members, IsPlainName member.1
  | null | bool _ | number _ | string _ | array _ => True

/-- The keys of every object can stand in a path. -/
def HasPlainKeys (document : Json) : Prop := document.Everywhere KeysArePlain

end Json

/-- Members make themselves when their values do. -/
theorem flattenMembers_makes {path : String} (hpath : Path.Closed path)
    {members : List (String × Json)} (hplain : ∀ member ∈ members, IsPlainName member.1)
    (hkeys : (members.map (·.1)).Nodup)
    (hvalues : ∀ member ∈ members, ∀ path, Path.Closed path →
      Makes path (flattenAt path member.2) (some member.2)) :
    MakesMembers path (flattenMembers path members) (members.map (·.1)) members := by
  induction members with
  | nil => exact MakesMembers.nil path
  | cons member rest ih =>
      rcases member with ⟨key, value⟩
      have hkey : IsPlainName key := hplain (key, value) List.mem_cons_self
      have hnodup := List.nodup_cons.1 hkeys
      have hfirst : Makes (Path.child path key) (flattenAt (Path.child path key) value)
          (some value) :=
        hvalues (key, value) List.mem_cons_self _ (closed_child hpath hkey)
      have hrest := ih (fun other hother => hplain other (List.mem_cons_of_mem _ hother))
        hnodup.2 (fun other hother => hvalues other (List.mem_cons_of_mem _ hother))
      exact MakesMembers.cons hpath hkey hnodup.1 hfirst hrest

/-- Items make themselves when each of them does. -/
theorem flattenItems_makes {path : String} (hpath : Path.Closed path) {position : Nat}
    {items : List Json} (hlength : position + items.length ≤ 2 ^ 64)
    (hvalues : ∀ item ∈ items, ∀ path, Path.Closed path →
      Makes path (flattenAt path item) (some item)) :
    MakesItems path position (flattenItems path position items) items := by
  induction items generalizing position with
  | nil => exact MakesItems.nil path position
  | cons item rest ih =>
      rw [List.length_cons] at hlength
      have hposition : position < 2 ^ 64 := by omega
      have hfirst : Makes (Path.item path position) (flattenAt (Path.item path position) item)
          (some item) :=
        hvalues item List.mem_cons_self _ (closed_item hpath position)
      have hrest : MakesItems path (position + 1) (flattenItems path (position + 1) rest) rest :=
        ih (by omega) (fun other hother => hvalues other (List.mem_cons_of_mem _ hother))
      exact MakesItems.cons hpath hposition hfirst hrest

/-- The leaves of a document make the document wherever they are written. -/
theorem flattenAt_makes {document : Json} (hform : document.WellFormed)
    (hplain : document.HasPlainKeys) {path : String} (hpath : Path.Closed path) :
    Makes path (flattenAt path document) (some document) := by
  -- The induction is on the document, for every path at once, because each part has its own.
  induction document using Json.induct generalizing path with
  | null => exact Makes.entry path .null
  | bool b => exact Makes.entry path (.bool b)
  | number n => exact Makes.entry path (.number n)
  | string s => exact Makes.entry path (.string s)
  | array items ih =>
      rcases Json.everywhere_array.1 hform with ⟨hlength, hforms⟩
      rcases Json.everywhere_array.1 hplain with ⟨-, hplains⟩
      cases items with
      | nil => exact Makes.entry path (.array [])
      | cons item rest =>
          have hbound : 0 + (item :: rest).length ≤ 2 ^ 64 := by
            rw [Nat.zero_add]
            exact hlength
          have hitems := flattenItems_makes hpath hbound
            (fun item hitem _ hpath => ih item hitem (hforms item hitem) (hplains item hitem) hpath)
          exact hitems.makes_absent
  | object members ih =>
      rcases Json.everywhere_object.1 hform with ⟨hkeys, hforms⟩
      rcases Json.everywhere_object.1 hplain with ⟨hnames, hplains⟩
      cases members with
      | nil => exact Makes.entry path (.object [])
      | cons member rest =>
          have hmembers := flattenMembers_makes hpath hnames hkeys
            (fun member hmember _ hpath =>
              ih member hmember (hforms member hmember) (hplains member hmember) hpath)
          exact hmembers.makes_absent

/-- A document is made again from its leaves: members in order, numbers in their form, empty
containers included. -/
theorem rebuild_flatten {document : Json} (hform : document.WellFormed)
    (hplain : document.HasPlainKeys) : rebuild (flatten document) = document := by
  -- The root is written over an empty object, not where nothing stands, so its kind matters once.
  cases document with
  | null => rfl
  | bool b => rfl
  | number n => rfl
  | string s => rfl
  | array items =>
      rcases Json.everywhere_array.1 hform with ⟨hlength, hforms⟩
      rcases Json.everywhere_array.1 hplain with ⟨-, hplains⟩
      cases items with
      | nil => rfl
      | cons item rest =>
          have hbound : 0 + (item :: rest).length ≤ 2 ^ 64 := by
            rw [Nat.zero_add]
            exact hlength
          have hitems := flattenItems_makes Path.closed_empty hbound
            (fun item hitem _ hpath =>
              flattenAt_makes (hforms item hitem) (hplains item hitem) hpath)
          exact hitems.rebuild
  | object members =>
      rcases Json.everywhere_object.1 hform with ⟨hkeys, hforms⟩
      rcases Json.everywhere_object.1 hplain with ⟨hnames, hplains⟩
      cases members with
      | nil => rfl
      | cons member rest =>
          have hmembers := flattenMembers_makes Path.closed_empty hnames hkeys
            (fun member hmember _ hpath =>
              flattenAt_makes (hforms member hmember) (hplains member hmember) hpath)
          exact hmembers.rebuild

/-- Empty containers inside an array, a key with a closing bracket, and a whole float. -/
def nestedDocument : Json :=
  .object [("b]", .array [.array [], .object [], .string ""]),
    ("a", .array [.object [("k", .null), ("n", .number (.float (Binary64.zero true)))]])]

theorem rebuild_flatten_nestedDocument :
    nestedDocument.WellFormed ∧ nestedDocument.HasPlainKeys ∧
      rebuild (flatten nestedDocument) = nestedDocument := by
  have hform : nestedDocument.WellFormed := by
    simp [nestedDocument, Json.WellFormed, Json.Everywhere, Json.EverywhereItems,
      Json.EverywhereMembers, Json.IsTidy]
  have hplain : nestedDocument.HasPlainKeys := by
    simp only [nestedDocument, Json.HasPlainKeys, Json.Everywhere, Json.EverywhereItems,
      Json.EverywhereMembers, Json.KeysArePlain]
    decide
  exact ⟨hform, hplain, rebuild_flatten hform hplain⟩

end Conform
