import DocumentIngest.Proofs.OptionalPaths
import DocumentIngest.Proofs.RowCounts

/-!
# Rows shared out over an id list

A row whose id is a list makes a document for every element that has a key text.  Each of
them is the body of the row, in which the arrays as long as the list have given way to one
of their items.  Only arrays that are reached through objects are taken apart, and what an
array is taken apart into is not looked into again.  So the documents have all that the
body has, and no two of them share what was one element's own.
-/

namespace DocumentIngest

namespace Json

mutual

/-- Whether no array of a length is reached in a value through objects. -/
def Lacks (width : Nat) : Json → Prop
  | array items => items.length ≠ width
  | object fields => LacksIn width fields
  | null | bool _ | number _ | string _ => True

/-- Whether no array of a length is reached in the fields of an object. -/
def LacksIn (width : Nat) : List (String × Json) → Prop
  | [] => True
  | (_, value) :: rest => Lacks width value ∧ LacksIn width rest

end

end Json

namespace RowPerDocument

/-- The document of an element: its share of the body, under its id. -/
def documentAt (body : Json) (width index : Nat) (id : String) : Json :=
  (share index width body).withId id

/-- Whether a document is what an element gets of a body: under every path of object keys
it has the keys of the body, beside them the id, the item of the element where the body
has an array of the width, and where there is none below, what the body has. -/
structure IsShareOf (body : Json) (width index : Nat) (id : String) (document : Json) :
    Prop where
  id : document.field? "id" = some (.string id)
  keys : ∀ path fields, body.at? path = some (.object fields) →
    ∃ others, document.at? path = some (.object others) ∧
      ∀ name, Keyed.hasKey others name ↔
        Keyed.hasKey fields name ∨ (path = [] ∧ name = "id")
  taken : ∀ path items, body.at? path = some (.array items) → items.length = width →
    document.at? path = items[index]?
  unchanged : ∀ path value, path ≠ [] → body.at? path = some value → value.Lacks width →
    document.at? path = some value

/-- Whether the element of an id list at an index has this key text. -/
def KeyAt (ids : List Json) (index : Nat) (id : String) : Prop :=
  ∃ element, ids[index]? = some element ∧ (Resolved.ofJson element).asKey? = some id

section Sharing

variable {index width : Nat} {body value : Json}

mutual

theorem share_of_lacks (value : Json) (lacks : value.Lacks width) :
    share index width value = value := by
  cases value with
  | array items =>
      rw [Json.Lacks] at lacks
      rw [share, if_neg lacks]
  | object fields =>
      rw [Json.Lacks] at lacks
      rw [share, shareFields_of_lacks fields lacks]
  | null => rfl
  | bool flag => rfl
  | number number => rfl
  | string text => rfl

theorem shareFields_of_lacks (fields : List (String × Json)) (lacks : Json.LacksIn width fields) :
    shareFields index width fields = fields := by
  cases fields with
  | nil => rfl
  | cons field rest =>
      obtain ⟨name, value⟩ := field
      rw [Json.LacksIn] at lacks
      rw [shareFields, share_of_lacks value lacks.1, shareFields_of_lacks rest lacks.2]

end

/-- Sharing goes down to every value that is reached through objects. -/
theorem at?_share {path : List String} (found : body.at? path = some value) :
    (share index width body).at? path = some (share index width value) := by
  induction path generalizing body with
  | nil =>
      cases found
      rfl
  | cons key rest ih =>
      obtain ⟨child, isChild, below⟩ := Option.bind_eq_some_iff.mp found
      cases body with
      | object fields =>
          have shared : (share index width (.object fields)).field? key =
              some (share index width child) := by
            rw [share, Json.field?, lookup_shareFields]
            exact congrArg (Option.map (share index width)) isChild
          rw [Json.at?, shared, Option.bind_some]
          exact ih below
      | null => cases isChild
      | bool flag => cases isChild
      | number number => cases isChild
      | string text => cases isChild
      | array items => cases isChild

theorem share_array {items : List Json} (long : items.length = width) (within : index < width) :
    some (share index width (.array items)) = items[index]? := by
  have there : index < items.length := by omega
  rw [share, if_pos long, List.getElem?_eq_getElem there]

/-- Setting the id leaves alone what a body without an id has under a path. -/
theorem at?_documentAt {fields : Json.Fields} (free : Keyed.lookup fields "id" = none) (id : String)
    {path : List String} (notRoot : path ≠ [])
    (found : (Json.object fields).at? path = some value) :
    (documentAt (.object fields) width index id).at? path = some (share index width value) := by
  rw [← at?_share found]
  cases path with
  | nil => exact absurd rfl notRoot
  | cons key rest =>
      obtain ⟨child, isChild, _⟩ := Option.bind_eq_some_iff.mp found
      have different : key ≠ "id" := by
        rintro rfl
        exact absurd (free.symm.trans isChild) (by simp)
      rw [Json.at?, Json.at?, documentAt, Json.field?_withId_of_ne _ id different]

theorem hasKey_shareFields (index width : Nat) (fields : Json.Fields) (name : String) :
    Keyed.hasKey (shareFields index width fields) name = Keyed.hasKey fields name := by
  rw [Keyed.hasKey, Keyed.hasKey, lookup_shareFields, Option.isSome_map]

theorem isShareOf_documentAt {fields : Json.Fields} (free : Keyed.lookup fields "id" = none)
    (within : index < width) (id : String) :
    IsShareOf (.object fields) width index id (documentAt (.object fields) width index id) where
  id := by
    rw [documentAt, share]
    exact Keyed.lookup_insert_self _ _ _
  keys := by
    intro path below found
    cases path with
    | nil =>
        cases found
        refine ⟨Keyed.insert (shareFields index width fields) "id" (.string id), ?_, ?_⟩
        · rw [documentAt, share]
          rfl
        · intro name
          rw [Keyed.hasKey, Keyed.lookup_insert, ← hasKey_shareFields index width fields,
            Keyed.hasKey]
          by_cases same : name = "id" <;> simp [same]
    | cons key rest =>
        refine ⟨shareFields index width below, ?_, ?_⟩
        · rw [at?_documentAt free id (List.cons_ne_nil key rest) found, share]
        · intro name
          simp [hasKey_shareFields]
  taken := by
    intro path items found long
    have notRoot : path ≠ [] := by
      rintro rfl
      cases found
    rw [at?_documentAt free id notRoot found, share_array long within]
  unchanged := by
    intro path value notRoot found lacks
    rw [at?_documentAt free id notRoot found, share_of_lacks value lacks]

/-- What the elements were given of an array, put together, is the array again. -/
theorem collect_taken {items : List Json} {path : List String} (long : items.length = width)
    {documentOf : Nat → Json}
    (taken : ∀ index < width, (documentOf index).at? path = items[index]?) :
    (List.range width).map (fun index => (documentOf index).at? path) = items.map some := by
  apply List.ext_getElem
  · simp [long]
  · intro index before beforeToo
    simp only [List.length_map, List.length_range] at before
    have there : index < items.length := by omega
    simp only [List.getElem_map, List.getElem_range, taken index before,
      List.getElem?_eq_getElem there]

end Sharing

section Elements

variable {element : Json} {rest ids : List Json} {id : String}

theorem keyAt_zero : KeyAt (element :: rest) 0 id ↔ (Resolved.ofJson element).asKey? = some id := by
  simp [KeyAt]

theorem keyAt_succ (index : Nat) :
    KeyAt (element :: rest) (index + 1) id ↔ KeyAt rest index id := by
  simp [KeyAt]

variable (body : Json) (width : Nat)

theorem lookup_addElements_of_absent (index : Nat) (outcome : BuildOutcome)
    (absent : ∀ position, ¬ KeyAt ids position id) :
    Keyed.lookup (addElements body width index outcome ids).documents id =
      Keyed.lookup outcome.documents id := by
  induction ids generalizing index outcome with
  | nil => rfl
  | cons element rest ih =>
      have behind : ∀ position, ¬ KeyAt rest position id :=
        fun position keyAt => absent (position + 1) ((keyAt_succ position).mpr keyAt)
      rw [addElements, ih _ _ behind]
      split
      · next key isKey =>
          have different : id ≠ key := by
            rintro rfl
            exact absent 0 (keyAt_zero.mpr isKey)
          exact Keyed.lookup_insert_of_ne _ _ different
      · rfl

/-- Of several elements with one key text the last one's document stays. -/
theorem lookup_addElements (index : Nat) (outcome : BuildOutcome) {position : Nat}
    (keyAt : KeyAt ids position id) (last : ∀ later, position < later → ¬ KeyAt ids later id) :
    Keyed.lookup (addElements body width index outcome ids).documents id =
      some (documentAt body width (index + position) id) := by
  induction ids generalizing index outcome position with
  | nil => simp [KeyAt] at keyAt
  | cons element rest ih =>
      rw [addElements]
      cases position with
      | zero =>
          have behind : ∀ position, ¬ KeyAt rest position id := by
            intro position again
            exact last (position + 1) (by omega) ((keyAt_succ position).mpr again)
          rw [lookup_addElements_of_absent body width _ _ behind]
          simp only [keyAt_zero.mp keyAt]
          exact Keyed.lookup_insert_self _ _ _
      | succ position =>
          have lastBehind : ∀ later, position < later → ¬ KeyAt rest later id := by
            intro later after again
            exact last (later + 1) (by omega) ((keyAt_succ later).mpr again)
          rw [ih _ _ ((keyAt_succ position).mp keyAt) lastBehind]
          congr 2
          omega

end Elements

/-- The body of a row is an object without an id of its own. -/
theorem exists_body {document : IngestDocument} {compiled : CompiledDocument}
    (compiles : CompiledDocument.compile document = .ok compiled) {provided : List Handler}
    {context : RowContext} {resolved : Option Json}
    (resolves : compiled.body.resolve provided context compiled.optionalFields = .ok resolved) :
    ∃ fields, resolved = some (.object fields) ∧ Keyed.lookup fields "id" = none := by
  obtain ⟨templates, _, trees, _, _, _, body, builders⟩ :=
    CompiledDocument.cases_of_compile compiles
  have noTree : Keyed.lookup trees "id" = none := by
    rcases builders with ⟨_, _, treesCompile⟩ | ⟨_, _, treesCompile⟩
    · exact TemplateTree.lookup_compileFields (Keyed.lookup_erase_self _ _) treesCompile
    · refine TemplateTree.lookup_compileFields ?_ treesCompile
      rw [Keyed.lookup_erase_of_ne _ (by decide : "id" ≠ "data"), Keyed.lookup_erase_self]
  rw [body] at resolves
  obtain ⟨fields, same, fieldsResolve⟩ := TemplateTree.isObject_of_resolve resolves
  have isConstant : Keyed.lookup trees "id" =
      (none : Option String).map fun text => .token (.literal text) := noTree
  exact ⟨fields, same, TemplateTree.lookup_resolveFields isConstant fieldsResolve⟩

/-- A row whose id is a list makes a document of every element with a key text, counts every
other one as failed, and touches no other document.  Of several elements with one key text
the last one's document stays.  The document of an element is its share of the body, and at
every array of the length of the list the shares of all elements make up the array. -/
theorem shares_out {document : IngestDocument} {compiled : CompiledDocument}
    (compiles : CompiledDocument.compile document = .ok compiled) (context : RowContext)
    (outcome : BuildOutcome) {ids : List Json} {resolved : Option Json}
    (isList : compiled.id.resolve BuilderType.rowPerDocument.handlers context false =
      .ok (.list ids))
    (resolves : compiled.body.resolve BuilderType.rowPerDocument.handlers context
      compiled.optionalFields = .ok resolved) :
    ∃ body, resolved = some body ∧
      (addRow compiled context outcome).counts =
        { outcome.counts with
          rowsOk := outcome.counts.rowsOk + 1
          documentsFailed := outcome.counts.documentsFailed + unkeyed ids } ∧
      (∀ id index, KeyAt ids index id → (∀ later, index < later → ¬ KeyAt ids later id) →
        Keyed.lookup (addRow compiled context outcome).documents id =
          some (documentAt body ids.length index id)) ∧
      (∀ id, (∀ index, ¬ KeyAt ids index id) →
        Keyed.lookup (addRow compiled context outcome).documents id =
          Keyed.lookup outcome.documents id) ∧
      (∀ index < ids.length, ∀ id,
        IsShareOf body ids.length index id (documentAt body ids.length index id)) ∧
      ∀ path items, body.at? path = some (.array items) → items.length = ids.length →
        ∀ idOf : Nat → String,
          (List.range ids.length).map
              (fun index => (documentAt body ids.length index (idOf index)).at? path) =
            items.map some := by
  obtain ⟨fields, rfl, free⟩ := exists_body compiles resolves
  have added : addRow compiled context outcome =
      (addElements (.object fields) ids.length 0 outcome ids).countOk := by
    simp only [addRow, isList, resolves, Option.getD_some]
  refine ⟨.object fields, rfl, ?_, ?_, ?_, ?_, ?_⟩
  · rw [added, BuildOutcome.countOk, counts_addElements]
  · intro id index keyAt last
    rw [added]
    have stays := lookup_addElements (.object fields) ids.length 0 outcome keyAt last
    rwa [Nat.zero_add] at stays
  · intro id absent
    rw [added]
    exact lookup_addElements_of_absent (.object fields) ids.length 0 outcome absent
  · exact fun index within id => isShareOf_documentAt free within id
  · intro path items found long idOf
    exact collect_taken long fun index within =>
      (isShareOf_documentAt free within (idOf index)).taken path items found long

end RowPerDocument

/-- A document for each level that a row names. -/
def IngestDocument.sounding : IngestDocument :=
  { IngestDocument.blank with
    id := "sounding"
    template := .object
      [("id", .string "*levels"), ("obs", .object [("range", .string "*range"),
        ("t", .string "*temps")]), ("type", .string "OB")] }

def CompiledDocument.sounding : CompiledDocument :=
  { id := .field "levels"
    body := .object
      [("obs", .object [("range", .token (.field "range")), ("t", .token (.field "temps"))]),
        ("type", .token (.literal "OB"))]
    data := none
    dataKey := none
    optionalFields := [] }

/-- Three levels, of which one has no name and two have the same, and a list of two. -/
def RowContext.threeLevels : RowContext :=
  ⟨.rows ⟨[],
    [[("levels", .array [.string "850", .null, .string "850"]),
      ("range", .array [.ofNat 0, .ofNat 9]),
      ("temps", .array [.ofNat 1, .array [.ofNat 2, .ofNat 2, .ofNat 2], .ofNat 3])]]⟩, 0, []⟩

/-- What three levels share. -/
def Json.threeLevels : Json :=
  .object
    [("obs", .object [("range", .array [.ofNat 0, .ofNat 9]),
        ("t", .array [.ofNat 1, .array [.ofNat 2, .ofNat 2, .ofNat 2], .ofNat 3])]),
      ("type", .string "OB")]

theorem RowPerDocument.shares_out_threeLevels :
    CompiledDocument.compile .sounding = .ok .sounding ∧
      CompiledDocument.sounding.id.resolve BuilderType.rowPerDocument.handlers .threeLevels false =
        .ok (.list [.string "850", .null, .string "850"]) ∧
      CompiledDocument.sounding.body.resolve BuilderType.rowPerDocument.handlers .threeLevels [] =
        .ok (some .threeLevels) ∧
      (addRow .sounding .threeLevels {}).counts = { rowsOk := 1, documentsFailed := 1 } ∧
      Keyed.lookup (addRow .sounding .threeLevels {}).documents "850" =
        some (documentAt .threeLevels 3 2 "850") ∧
      IsShareOf .threeLevels 3 2 "850" (documentAt .threeLevels 3 2 "850") := by
  have compiles : CompiledDocument.compile .sounding = .ok .sounding := rfl
  have isList : CompiledDocument.sounding.id.resolve BuilderType.rowPerDocument.handlers
      .threeLevels false = .ok (.list [.string "850", .null, .string "850"]) := rfl
  have resolves : CompiledDocument.sounding.body.resolve BuilderType.rowPerDocument.handlers
      .threeLevels [] = .ok (some .threeLevels) := rfl
  obtain ⟨body, same, counts, stays, _, isShare, _⟩ :=
    shares_out compiles .threeLevels {} isList resolves
  cases same
  have last : KeyAt [.string "850", .null, .string "850"] 2 "850" := ⟨_, rfl, rfl⟩
  refine ⟨compiles, isList, resolves, counts, stays "850" 2 last ?_, isShare 2 (by decide) "850"⟩
  rintro later after ⟨element, there, _⟩
  have behind : [Json.string "850", .null, .string "850"][later]? = none :=
    List.getElem?_eq_none after
  simp [behind] at there

/-- The item of the list of three is not taken apart again, and the list of two stays. -/
example : RowPerDocument.documentAt .threeLevels 3 1 "700" =
    .object
      [("id", .string "700"),
        ("obs", .object [("range", .array [.ofNat 0, .ofNat 9]),
          ("t", .array [.ofNat 2, .ofNat 2, .ofNat 2])]),
        ("type", .string "OB")] := rfl

end DocumentIngest
