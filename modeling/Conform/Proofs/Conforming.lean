import Conform.Proofs.Rebuilding
import Conform.Proofs.Resolved

/-!
# What a document is brought to

A schema brings a document to its form by way of a log of paths.  The same form can be read off the
tree and the document directly, part by part.  This file defines:

* `Field.conform`, `Node.conform`: what a field and a tree make of a value, if anything;
* `conformRoot`: what a tree makes of a whole document;

and proves that the log of a document, rebuilt, is just that.
-/

namespace Conform

/-! ## The direct recursion -/

/-- What a field makes of a value: the outcome of its rule, or for no value its default or
nothing. -/
def Field.conform (tolerant : Bool) (field : Field) (path : String) :
    Option Json → Run (Option Json)
  | none =>
    match field.facets.default, field.facets.coerce with
    | some default, true => do return some (← default.draw)
    | _, _ =>
      if field.facets.isRequired && !tolerant then
        throw (field.facets.requiredViolation path .null)
      else return none
  | some value => do
    let output ← (field.checkPresent path value : Except Violation Json)
    return some output

/-- The members of an object that are kept although they are not declared. -/
def keptMembers (members : List (String × Node)) (given : List (String × Json)) :
    List (String × Json) :=
  if isPassthrough members then undeclared members given else []

/-- What an object makes of what its members make: an object, unless none was given and the members
make nothing. -/
def conformedObject (members : List (String × Node)) (made : List (String × Json)) :
    Option (List (String × Json)) → Option Json
  | some given => some (.object (keptMembers members given ++ made))
  | none => objectOf? made

/-- What items make, the first of them at a position: one value for each. -/
def conformItems (conform : String → Json → Run Json) (path : String) :
    (position : Nat) → List Json → Run (List Json)
  | _, [] => return []
  | position, item :: rest => do
    let first ← conform (Path.item path position) item
    return first :: (← conformItems conform path (position + 1) rest)

/-- What an item makes: one that should be an object may be empty instead, and stays as it is. -/
def conformItem (node : Node) (conform : Run (Option Json)) (path : String) (item : Json) :
    Run Json :=
  if node.isObject && !item.isObject then
    if item.isEmpty then return item else throw (shapeViolation .object path item)
  else do return (← conform).getD item

mutual

/-- What a tree makes of a value at a path, if anything. -/
def Node.conform (tolerant : Bool) : Node → (path : String) → Option Json → Run (Option Json)
  | .field field, path, value => field.conform tolerant path value
  | .object members, path, value => do
    let given := value.bind Json.members?
    let made ← conformMembers tolerant members path given
    return conformedObject members made given
  | .array _, _, none => return none
  | .array item, path, some value =>
    if value.isEmpty then return some value
    else match value with
      | .array items => do
        let made ← conformItems (fun path element =>
          conformItem item (item.conform tolerant path (some element)) path element) path 0 items
        return some (.array made)
      | value => throw (shapeViolation .array path value)

/-- What declared members make, in order of declaration. -/
def conformMembers (tolerant : Bool) : List (String × Node) → (path : String) →
    Option (List (String × Json)) → Run (List (String × Json))
  | [], _, _ => return []
  | (name, node) :: rest, path, given => do
    let first ← node.conform tolerant (Path.child path name) (given.bind (Json.lookup name))
    return memberOf name first ++ (← conformMembers tolerant rest path given)

end

/-- What a tree makes of a whole document: an object, also when there is nothing in it. -/
def conformRoot (tolerant : Bool) (members : List (String × Node)) (document : Json) :
    Run Json := do
  let given := document.members?
  let made ← conformMembers tolerant members "" given
  return .object (keptMembers members (given.getD []) ++ made)

/-! ## The log of a field -/

theorem Field.check_makes (tolerant : Bool) (field : Field) (path : String)
    (value : Option Json) :
    Run.Related (Makes path) (field.check tolerant path value)
      (field.conform tolerant path value) := by
  cases value with
  | none =>
      -- Where no default applies, both stop or both make nothing.
      have hmissing : Run.Related (Makes path)
          (if field.facets.isRequired && !tolerant then
            throw (field.facets.requiredViolation path .null) else return [])
          (if field.facets.isRequired && !tolerant then
            throw (field.facets.requiredViolation path .null) else return none) := by
        split
        · exact Run.Related.throw _
        · exact Run.Related.pure (Makes.none path)
      simp only [Field.check, Field.checkAbsent, Field.conform]
      rcases field.facets.default with _ | default
      · exact hmissing
      · cases field.facets.coerce with
        | false => exact hmissing
        | true =>
            refine Run.Related.bind (Run.Related.refl _) ?_
            rintro output _ rfl
            exact Run.Related.pure (Makes.entry path output)
  | some value =>
      refine Run.Related.bind (Run.Related.refl _) ?_
      rintro output _ rfl
      exact Run.Related.pure (Makes.entry path output)

/-! ## The log of a tree -/

/-- What is kept has none of the declared names. -/
theorem lookup_keptMembers {members : List (String × Node)} {name : String}
    (h : name ∈ members.map (·.1)) (given : List (String × Json)) :
    Json.lookup name (keptMembers members given) = none := by
  rw [Json.lookup_eq_none_iff]
  intro hmem
  unfold keptMembers at hmem
  split at hmem
  · -- What is kept has passed a filter that no declared name passes.
    rcases List.mem_map.1 hmem with ⟨kept, hkept, rfl⟩
    have hundeclared := (List.mem_filter.1 hkept).2
    rcases List.mem_map.1 h with ⟨member, hmember, hname⟩
    have hdeclared : members.any (·.1 == kept.1) = true :=
      List.any_eq_true.2 ⟨member, hmember, by simpa using hname⟩
    simp [hdeclared] at hundeclared
  · simp at hmem

theorem undeclared_eq_nil {members : List (String × Node)} {made : List (String × Json)}
    (h : made.map (·.1) ⊆ members.map (·.1)) : undeclared members made = [] := by
  refine List.filter_eq_nil_iff.2 (fun member hmember => ?_)
  have hkey : member.1 ∈ made.map (·.1) := List.mem_map.2 ⟨member, hmember, rfl⟩
  rcases List.mem_map.1 (h hkey) with ⟨declared, hdeclared, hname⟩
  have hany : members.any (·.1 == member.1) = true :=
    List.any_eq_true.2 ⟨declared, hdeclared, by simpa using hname⟩
  simp [hany]

/-- A value in the place of an item always makes a value. -/
theorem Node.conform_ensures_some (tolerant : Bool) {node : Node} {value : Json}
    (h : node.isObject = true → value.isObject = true) (path : String) :
    Run.Ensures (fun result => result.isSome = true)
      (node.conform tolerant path (some value)) := by
  cases node with
  | field field =>
      exact Run.Ensures.bind (fun output => Run.Ensures.pure rfl)
  | object members =>
      cases value with
      | object given => exact Run.Ensures.bind (fun made => Run.Ensures.pure rfl)
      -- Anything else is not in the place of an item, as `h` says.
      | _ => exact Bool.noConfusion (h rfl)
  | array item =>
      simp only [Node.conform]
      split
      · exact Run.Ensures.pure rfl
      · split
        · exact Run.Ensures.bind (fun made => Run.Ensures.pure rfl)
        · exact Run.Ensures.throw _

/-- The log of an item makes what the item makes, when its tree does. -/
theorem checkItem_makes {tolerant : Bool} {node : Node} {path : String} {item : Json}
    (h : Run.Related (Makes path) (node.check tolerant path (some item))
      (node.conform tolerant path (some item))) :
    Run.Related (fun entries value => Makes path entries (some value))
      (checkItem node (node.check tolerant path (some item)) path item)
      (conformItem node (node.conform tolerant path (some item)) path item) := by
  unfold checkItem conformItem
  by_cases hobject : (node.isObject && !item.isObject) = true
  · simp only [hobject, if_true]
    split
    · exact Run.Related.pure (Makes.entry path item)
    · exact Run.Related.throw _
  · rw [if_neg hobject, if_neg hobject]
    -- From here on an item that should be an object is one, so it makes a value.
    have hkind : node.isObject = true → item.isObject = true := by
      intro hnode
      simpa [hnode] using hobject
    have hsome := Node.conform_ensures_some tolerant hkind path
    -- The item unwraps what its tree makes, which its log has no step for.
    rw [← bind_pure (node.check tolerant path (some item))]
    refine Run.Related.bind (h.and_ensures hsome) ?_
    rintro entries result ⟨hmakes, hresult⟩
    rcases Option.isSome_iff_exists.1 hresult with ⟨value, rfl⟩
    exact Run.Related.pure hmakes

theorem checkItems_makes {check : String → Json → Run Entries} {conform : String → Json → Run Json}
    {path : String} (hpath : Path.Closed path) {items : List Json} {position : Nat}
    (hlength : position + items.length ≤ 2 ^ 64)
    (hparts : ∀ item ∈ items, ∀ path, Path.Closed path →
      Run.Related (fun entries value => Makes path entries (some value)) (check path item)
        (conform path item)) :
    Run.Related (MakesItems path position) (checkItems check path position items)
      (conformItems conform path position items) := by
  induction items generalizing position with
  | nil => exact Run.Related.pure (MakesItems.nil path position)
  | cons item rest ih =>
      rw [List.length_cons] at hlength
      have hposition : position < 2 ^ 64 := by omega
      refine Run.Related.bind (hparts item List.mem_cons_self _ (closed_item hpath position)) ?_
      intro first value hfirst
      have hbound : position + 1 + rest.length ≤ 2 ^ 64 := by omega
      have hrest := ih hbound (fun other hother => hparts other (List.mem_cons_of_mem _ hother))
      refine Run.Related.bind hrest ?_
      intro others values hothers
      exact Run.Related.pure (MakesItems.cons hpath hposition hfirst hothers)

theorem checkMembers_makes {tolerant : Bool} {path : String} (hpath : Path.Closed path)
    {given : Option (List (String × Json))}
    (hgiven : ∀ members ∈ given, ∀ member ∈ members, member.2.WellFormed)
    {members : List (String × Node)} (hnames : (members.map (·.1)).Nodup)
    (hplain : ∀ member ∈ members, IsPlainName member.1)
    (hparts : ∀ member ∈ members, ∀ path value, Path.Closed path →
      (∀ v ∈ value, Json.WellFormed v) → Run.Related (Makes path)
        (member.2.check tolerant path value) (member.2.conform tolerant path value)) :
    Run.Related (fun entries made => MakesMembers path entries (members.map (·.1)) made)
      (checkMembers tolerant members path given) (conformMembers tolerant members path given) := by
  induction members with
  | nil => exact Run.Related.pure (MakesMembers.nil path)
  | cons member rest ih =>
      rcases member with ⟨name, node⟩
      have hname : IsPlainName name := hplain (name, node) List.mem_cons_self
      have hnodup := List.nodup_cons.1 hnames
      have hvalue : ∀ v ∈ given.bind (Json.lookup name), Json.WellFormed v := by
        intro v hv
        rcases Option.bind_eq_some_iff.1 hv with ⟨members, hmembers, hlookup⟩
        exact hgiven members hmembers _ (Json.lookup_mem hlookup)
      have hfirst := hparts (name, node) List.mem_cons_self _ _ (closed_child hpath hname) hvalue
      have hrest := ih hnodup.2 (fun other hother => hplain other (List.mem_cons_of_mem _ hother))
        (fun other hother => hparts other (List.mem_cons_of_mem _ hother))
      refine Run.Related.bind hfirst ?_
      intro first result hfirst
      refine Run.Related.bind hrest ?_
      intro others made hothers
      exact Run.Related.pure (MakesMembers.cons hpath hname hnodup.1 hfirst hothers)

/-- The log of a tree makes what the tree makes, wherever it is written. -/
theorem Node.check_makes {tolerant : Bool} {node : Node} (hnode : node.Everywhere HasPathNames)
    {path : String} (hpath : Path.Closed path) {value : Option Json}
    (hvalue : ∀ v ∈ value, Json.WellFormed v) :
    Run.Related (Makes path) (node.check tolerant path value)
      (node.conform tolerant path value) := by
  -- The induction is on the tree; the value shrinks with it but plays no part of its own.
  induction node using Node.induct generalizing path value with
  | field field => exact field.check_makes tolerant path value
  | object members ih =>
      rcases Node.everywhere_object.1 hnode with ⟨⟨hnames, hplain⟩, hforms⟩
      have hgiven : ∀ given ∈ value.bind Json.members?, ∀ member ∈ given,
          member.2.WellFormed := by
        intro given hgiven
        rcases Option.bind_eq_some_iff.1 hgiven with ⟨v, hv, hmembers⟩
        exact (Json.wellFormed_of_members? (hvalue v hv) hmembers).2
      have hmembers := checkMembers_makes hpath hgiven hnames
        (fun member hmember => isPlainName_of_isPathName (hplain member hmember))
        (fun member hmember _ _ hpath hvalue =>
          ih member hmember (hforms member hmember) hpath hvalue)
      refine Run.Related.bind hmembers ?_
      intro rest made hrest
      apply Run.Related.pure
      -- A given object is written ahead of its members; otherwise they make it, if there are any.
      cases value.bind Json.members? with
      | some given =>
          exact hrest.makes_object (fun name hname => lookup_keptMembers hname given)
      | none => exact hrest.makes_absent
  | array item ih =>
      cases value with
      | none => exact Run.Related.pure (Makes.none path)
      | some value =>
          simp only [Node.check, Node.conform]
          split
          · exact Run.Related.pure (Makes.entry path value)
          · cases value with
            | array items =>
                rcases Json.everywhere_array.1 (hvalue _ rfl) with ⟨hlength, hitems⟩
                have hbound : 0 + items.length ≤ 2 ^ 64 := by
                  rw [Nat.zero_add]
                  exact hlength
                refine Run.Related.bind (checkItems_makes hpath hbound ?_) ?_
                · -- Items are checked at their own paths, which are closed like this one.
                  intro element helement path hpath
                  refine checkItem_makes (ih hnode.2 hpath ?_)
                  rintro _ ⟨⟩
                  exact hitems element helement
                · intro rest made hrest
                  exact Run.Related.pure hrest.makes_array
            | _ => exact Run.Related.throw _

/-! ## Whole documents -/

/-- What a root writes for itself goes ahead of what its members make. -/
theorem rebuild_rootEntries {members : List (String × Node)}
    {given : Option (List (String × Json))} (hkeys : ∀ g ∈ given, (g.map (·.1)).Nodup)
    {rest : Entries} {made : List (String × Json)}
    (h : MakesMembers "" rest (members.map (·.1)) made) :
    rebuild ((if isPassthrough members then objectEntries members "" given else []) ++ rest) =
      .object (keptMembers members (given.getD []) ++ made) := by
  cases given with
  | none =>
      have hkept : keptMembers members [] = [] := by simp [keptMembers, undeclared]
      simpa [objectEntries, hkept] using h.rebuild
  | some given =>
      by_cases hpassthrough : isPassthrough members = true
      · have hkept : keptMembers members given = undeclared members given := if_pos hpassthrough
        have hnodup : ((undeclared members given).map (·.1)).Nodup :=
          (hkeys given rfl).sublist (List.filter_sublist.map _)
        have hnew : ∀ name ∈ members.map (·.1),
            Json.lookup name (undeclared members given) = none :=
          fun name hname => hkept ▸ lookup_keptMembers hname given
        simpa [objectEntries, hpassthrough, hkept] using h.rebuild_object hnodup hnew
      · have hkept : keptMembers members given = [] := if_neg hpassthrough
        simpa [hpassthrough, hkept] using h.rebuild

/-- A document rebuilt from its log is what the tree makes of the document, with the same violation
and the same draws where it stops. -/
theorem rebuild_checkRoot (tolerant : Bool) {members : List (String × Node)}
    (hmembers : (Node.object members).Everywhere Node.HasPathNames) {document : Json}
    (hdocument : document.WellFormed) :
    (do return rebuild (← checkRoot tolerant members document)) =
      conformRoot tolerant members document := by
  rcases Node.everywhere_object.1 hmembers with ⟨⟨hnames, hplain⟩, hforms⟩
  have hgiven : ∀ given ∈ document.members?, (given.map (·.1)).Nodup ∧
      ∀ member ∈ given, member.2.WellFormed :=
    fun _ hmem => Json.wellFormed_of_members? hdocument hmem
  have hparts : Run.Related
      (fun entries made => MakesMembers "" entries (members.map (·.1)) made)
      (checkMembers tolerant members "" document.members?)
      (conformMembers tolerant members "" document.members?) :=
    checkMembers_makes Path.closed_empty (fun given hmem => (hgiven given hmem).2) hnames
      (fun member hmember => isPlainName_of_isPathName (hplain member hmember))
      (fun member hmember _ _ hpath hvalue => Node.check_makes (hforms member hmember) hpath hvalue)
  apply Run.Related.map_eq
  refine Run.Related.bind hparts ?_
  intro rest made hrest
  exact Run.Related.pure (rebuild_rootEntries (fun given hmem => (hgiven given hmem).1) hrest)

theorem resolve_hasPathNames {options : Options} {registry : Registry} {definition : Definition}
    {members : List (String × Node)}
    (h : (resolve options registry definition).result = .ok members) :
    (Node.object members).Everywhere Node.HasPathNames := by
  refine (resolve_isResolved h).mono ?_
  intro node hnode
  cases node with
  | object members => exact hnode
  | field _ | array _ => exact trivial

/-- What a schema makes of a document is what its tree makes of it where the schema coerces, and
otherwise the document as it was. -/
theorem Schema.validate_eq {options : Options} {registry : Registry} {definition : Definition}
    {schema : Schema} (hschema : (resolve options registry definition).result = .ok schema.members)
    {document : Json} (hdocument : document.WellFormed) :
    schema.validate document = (do
      let result ← conformRoot schema.options.partialInput schema.members document
      return if schema.options.coerce then result else document) := by
  rw [← rebuild_checkRoot _ (resolve_hasPathNames hschema) hdocument]
  by_cases hcoerce : schema.options.coerce = true
  · simp [validate, validateFlat, hcoerce]
  · simp [validate, validateFlat, hcoerce]

/-- A schema that coerces brings a document to what its tree makes of it by direct recursion, under
whatever options it was built. -/
theorem validate_eq_conformRoot {options : Options} {registry : Registry}
    {definition : Definition} {schema : Schema} {document : Json}
    (hschema : (resolve options registry definition).result = .ok schema.members)
    (hcoerce : schema.options.coerce = true) (hdocument : document.WellFormed) :
    schema.validate document =
      conformRoot schema.options.partialInput schema.members document := by
  have hflat : schema.validateFlat document =
      checkRoot schema.options.partialInput schema.members document := by
    simp [Schema.validateFlat, hcoerce]
  calc
    schema.validate document
        = (do
            let entries ← checkRoot schema.options.partialInput schema.members document
            return rebuild entries) := by simp [Schema.validate, hflat, hcoerce]
    _ = conformRoot schema.options.partialInput schema.members document :=
          rebuild_checkRoot _ (resolve_hasPathNames hschema) hdocument

/-- A field, an array of objects, and an object that keeps what it does not declare. -/
def nestedDefinition : Definition :=
  .object [("name", .type (.kind .string)),
    ("tags", .array [.object [("id", .type (.kind .string))]]),
    ("extra", .object [("inner", .object [("flag",
      .field { type := .kind .boolean, default := some (.fixed (.bool true)) })])])]

/-- The members that `nestedDefinition` states. -/
def nestedMembers : List (String × Node) :=
  [("name", .field (.bare (.builtin .string))),
    ("tags", .array (.object [("id", .field (.bare (.builtin .string)))])),
    ("extra", .object [("inner", .object [("flag",
      .field ⟨.builtin .boolean, { coerce := true, default := some (.fixed (.bool true)) }⟩)])])]

/-- Items that are empty, a member that is not declared, and a key with punctuation. -/
def nestedInput : Json :=
  .object [("name", .string "n"),
    ("tags", .array [.object [("id", .bool true), ("x", .null)], .null, .object []]),
    ("extra", .object [("a.b[0]", .string "kept")])]

theorem validate_nestedInput :
    (resolve {} .builtin nestedDefinition).result = .ok nestedMembers ∧ nestedInput.WellFormed ∧
      (Schema.mk {} nestedMembers).validate nestedInput =
        conformRoot false nestedMembers nestedInput ∧
      ∀ draws, (conformRoot false nestedMembers nestedInput).outcome draws =
        (.ok (.object [("name", .string "n"),
          ("tags", .array [.object [("id", .string "true")], .null, .object []]),
          ("extra", .object [("a.b[0]", .string "kept"),
            ("inner", .object [("flag", .bool true)])])]), draws) := by
  have hresolve : (resolve {} .builtin nestedDefinition).result = .ok nestedMembers := rfl
  have hform : nestedInput.WellFormed := by
    simp [nestedInput, Json.WellFormed, Json.Everywhere, Json.EverywhereItems,
      Json.EverywhereMembers, Json.IsTidy]
  exact ⟨hresolve, hform,
    @validate_eq_conformRoot {} .builtin nestedDefinition ⟨{}, nestedMembers⟩ nestedInput
      hresolve rfl hform,
    fun _ => rfl⟩

end Conform
