import DocumentIngest.Proofs.KeyJoins
import DocumentIngest.Proofs.NestedDocuments
import DocumentIngest.Proofs.TemplateGrammar

/-!
# Which composites are optional

The optional fields of an ingest document name composites of its template by dotted
paths.  Such a path is followed from the root of what is resolved as a whole.  With one
document a row that is the template, and with nested rows it is the template too, as
long as the path does not begin with `data`.  The data tree of nested rows is resolved
by itself, so there the path that counts is what stands behind `data`, and a path that
is written from the root of the template names nothing.
-/

namespace DocumentIngest

open Fallible

namespace Json

/-- What stands at the end of a list of object keys. -/
def at? (value : Json) : List String → Option Json
  | [] => some value
  | key :: rest => (value.field? key).bind fun child => child.at? rest

theorem field?_withId_of_ne (value : Json) (id : String) {key : String} (different : key ≠ "id") :
    (value.withId id).field? key = value.field? key := by
  cases value with
  | object fields => exact Keyed.lookup_insert_of_ne fields _ different
  | _ => rfl

/-- Whether a list of object keys leads from a value to another one.  Objects on the way
are maps in key order. -/
inductive LeadsTo (target : Json) : Json → List String → Prop where
  | here : LeadsTo target target []
  | into {fields : Fields} {key : String} {child : Json} {rest : List String} :
      Keyed.Ascending fields → Keyed.lookup fields key = some child →
        LeadsTo target child rest → LeadsTo target (.object fields) (key :: rest)

end Json

namespace Token

variable (provided : List Handler) (context : RowContext)

/-- Whether a value is what pieces come to if missing ones count as empty text. -/
def Tolerates (pieces : List Token) (value : Option Json) : Prop :=
  ∃ keys, List.Forall₂ (HasKey provided context) pieces keys ∧
    value = some (.string (":".intercalate (keys.map fun key => key.getD "")))

/-- Whether a value is what pieces come to if each of them is needed. -/
def Requires (pieces : List Token) (value : Option Json) : Prop :=
  ((∃ piece ∈ pieces, HasKey provided context piece none) ∧ value = none) ∨
    ∃ keys : List String, List.Forall₂ (HasKey provided context) pieces (keys.map some) ∧
      value = some (.string (":".intercalate keys))

variable {provided context}

theorem hasKeys_of_resolvePieces {pieces : List Token}
    (steady : ∀ piece ∈ pieces,
      piece.resolve provided context true = piece.resolve provided context false)
    {found : Option (List String)}
    (resolves : resolvePieces provided context true pieces = .ok found) :
    ∃ keys, List.Forall₂ (HasKey provided context) pieces keys ∧
      found = some (keys.map fun key => key.getD "") := by
  induction pieces generalizing found with
  | nil =>
      cases resolves
      exact ⟨[], .nil, rfl⟩
  | cons piece rest ih =>
      rw [resolvePieces] at resolves
      obtain ⟨value, pieceResolves, resolves⟩ := bind_eq_ok_iff.mp resolves
      obtain ⟨key, isKey, resolves⟩ := bind_eq_ok_iff.mp resolves
      rw [steady piece List.mem_cons_self] at pieceResolves
      have behind := fun found resolves =>
        @ih (fun other member => steady other (List.mem_cons_of_mem _ member)) found resolves
      rcases keyOfPiece_eq_ok isKey with ⟨rfl, rfl⟩ | ⟨text, hasText, rfl⟩
      · obtain ⟨others, restResolves, same⟩ := bind_eq_ok_iff.mp resolves
        obtain ⟨keys, hasKeys, rfl⟩ := behind others restResolves
        cases same
        exact ⟨none :: keys, .cons (.missing pieceResolves) hasKeys, rfl⟩
      · obtain ⟨others, restResolves, same⟩ := bind_eq_ok_iff.mp resolves
        obtain ⟨keys, hasKeys, rfl⟩ := behind others restResolves
        cases same
        exact ⟨some text :: keys, .cons (.text pieceResolves hasText) hasKeys, rfl⟩

theorem needsKeys_of_resolvePieces {pieces : List Token} {found : Option (List String)}
    (resolves : resolvePieces provided context false pieces = .ok found) :
    (found = none ∧ ∃ piece ∈ pieces, HasKey provided context piece none) ∨
      ∃ keys, found = some keys ∧
        List.Forall₂ (HasKey provided context) pieces (keys.map some) := by
  rw [resolvePieces_eq_scanKeys] at resolves
  cases found with
  | none =>
      obtain ⟨before, piece, behind, rfl, _, missing⟩ := scanKeys_eq_none_iff.mp resolves
      exact .inl ⟨rfl, piece, by simp, keyIn_eq_ok_iff.mp missing⟩
  | some keys =>
      refine .inr ⟨keys, rfl, List.forall₂_map_right_iff.mpr ?_⟩
      exact (scanKeys_eq_some_iff.mp resolves).imp fun _ _ => keyIn_eq_ok_iff.mp

/-- Only composites can be optional, and no piece is one. -/
theorem resolve_piece_steady {pieces : List Token} (are : ArePieces pieces) :
    ∀ piece ∈ pieces,
      piece.resolve provided context true = piece.resolve provided context false := by
  induction pieces, are using pieces_induction with
  | nil => simp
  | atom piece rest isAtom areRest ih =>
      intro other member
      rcases List.mem_cons.mp member with rfl | behind
      · cases other with
        | literal text => rfl
        | field name => rfl
        | call name arguments parts => exact absurd isAtom id
        | composite pieces => exact absurd isAtom id
      · exact ih other behind
  | last name arguments parts named clean areAtoms areParts ih =>
      intro other member
      cases List.mem_singleton.mp member
      rfl

theorem composite_spec {text : String} {pieces : List Token}
    (parsed : ofTemplate text = .ok (.composite pieces)) {optionally : Bool} {resolved : Resolved}
    (resolves : (composite pieces).resolve provided context optionally = .ok resolved) :
    if optionally then Tolerates provided context pieces resolved.toJson?
    else Requires provided context pieces resolved.toJson? := by
  have parses : parse text = .ok (.composite pieces) := by
    rw [ofTemplate] at parsed
    split at parsed
    · next token isToken =>
        cases parsed
        exact isToken
    · simp at parsed
  obtain ⟨_, are⟩ := (parse_eq_ok_iff.mp parses).1
  rw [resolve] at resolves
  obtain ⟨found, piecesResolve, resolves⟩ := bind_eq_ok_iff.mp resolves
  cases optionally with
  | true =>
      obtain ⟨keys, hasKeys, rfl⟩ :=
        hasKeys_of_resolvePieces (resolve_piece_steady are) piecesResolve
      cases resolves
      exact ⟨keys, hasKeys, rfl⟩
  | false =>
      rcases needsKeys_of_resolvePieces piecesResolve with ⟨rfl, missing⟩ | ⟨keys, rfl, hasKeys⟩
      · cases resolves
        exact .inl ⟨missing, rfl⟩
      · cases resolves
        exact .inr ⟨keys, hasKeys, rfl⟩

end Token

namespace TemplateTree

variable {provided : List Handler} {context : RowContext} {optionally : List String}

/-- A field of an object resolves to what its template does, at the path of the field. -/
theorem exists_child {fields : Json.Fields} (ascending : Keyed.Ascending fields) {key : String}
    {child : Json} (found : Keyed.lookup fields key = some child)
    {trees : List (String × TemplateTree)} (compiles : compileFields fields = .ok trees)
    {path : String} {values : Json.Fields}
    (resolves : resolveFields provided context optionally path trees = .ok values) :
    ∃ tree, compile child = .ok tree ∧
      resolveAt provided context optionally (childPath path key) tree =
        .ok (Keyed.lookup values key) := by
  induction fields generalizing trees values with
  | nil => simp at found
  | cons field rest ih =>
      obtain ⟨name, first⟩ := field
      obtain ⟨below, restAscending⟩ := List.pairwise_cons.mp ascending
      rw [compileFields] at compiles
      obtain ⟨tree, firstCompiles, compiles⟩ := bind_eq_ok_iff.mp compiles
      obtain ⟨restTrees, restCompile, compiles⟩ := bind_eq_ok_iff.mp compiles
      cases compiles
      obtain ⟨value, others, firstResolves, restResolve, laid⟩ := resolveFields_cons resolves
      rw [Keyed.lookup] at found
      rw [laid]
      by_cases same : key = name
      · rw [if_pos same] at found ⊢
        cases found
        subst same
        -- No later field has this key, so a missing one leaves none behind.
        have absent : Keyed.lookup rest key = none := by
          cases again : Keyed.lookup rest key with
          | none => rfl
          | some other =>
              exact absurd (below _ (Keyed.mem_of_lookup again)) (String.lt_irrefl key)
        have nothing : Keyed.lookup others key = none :=
          @lookup_resolveFields _ _ _ _ _ none _ _ (lookup_compileFields absent restCompile)
            restResolve
        refine ⟨tree, firstCompiles, ?_⟩
        rw [nothing, Option.or_none]
        exact firstResolves
      · rw [if_neg same] at found ⊢
        exact ih restAscending found restCompile restResolve

/-- What a text of a template comes to stands at the end of the keys that lead to it, and
it is optional if the path that these keys prolong is. -/
theorem at?_of_resolveAt {part : Json} {keys : List String} {text : String}
    (leads : Json.LeadsTo (.string text) part keys) {tree : TemplateTree}
    (compiles : compile part = .ok tree) {path : String} {found : Option Json}
    (resolves : resolveAt provided context optionally path tree = .ok found) :
    ∃ token resolved, Token.ofTemplate text = .ok token ∧
      token.resolve provided context (optionally.contains (keys.foldl childPath path)) =
        .ok resolved ∧
      (found.bind fun value => value.at? keys) = resolved.toJson? := by
  induction leads generalizing tree path found with
  | here =>
      rw [compile, map_eq_ok_iff] at compiles
      obtain ⟨token, parsed, rfl⟩ := compiles
      rw [resolveAt, map_eq_ok_iff] at resolves
      obtain ⟨resolved, tokenResolves, rfl⟩ := resolves
      refine ⟨token, resolved, parsed, tokenResolves, ?_⟩
      cases resolved.toJson? <;> rfl
  | @into fields key child rest ascending isChild _ ih =>
      rw [compile, map_eq_ok_iff] at compiles
      obtain ⟨trees, fieldsCompile, rfl⟩ := compiles
      rw [resolveAt, map_eq_ok_iff] at resolves
      obtain ⟨values, fieldsResolve, rfl⟩ := resolves
      obtain ⟨childTree, childCompiles, childResolves⟩ :=
        exists_child ascending isChild fieldsCompile fieldsResolve
      exact ih childCompiles childResolves

theorem foldl_childPath {path : String} (notEmpty : path ≠ "") (keys : List String) :
    keys.foldl childPath path = ".".intercalate (path :: keys) := by
  induction keys generalizing path with
  | nil => rw [String.intercalate_singleton]; rfl
  | cons key rest ih =>
      have below : childPath path key = path ++ "." ++ key := by
        rw [childPath, if_neg (by simpa using notEmpty)]
      have notEmptyBelow : childPath path key ≠ "" := by
        rw [below]
        simp
      rw [List.foldl_cons, ih notEmptyBelow, below]
      cases rest with
      | nil => simp [String.intercalate_cons_cons]
      | cons next others => simp [String.intercalate_cons_cons, String.append_assoc]

/-- The path of keys from the root is the keys with dots between them. -/
theorem foldl_childPath_root {keys : List String} (names : ∀ key ∈ keys, key ≠ "") :
    keys.foldl childPath "" = ".".intercalate keys := by
  cases keys with
  | nil => rfl
  | cons key rest => exact foldl_childPath (names key List.mem_cons_self) rest

end TemplateTree

theorem Json.LeadsTo.erase {target : Json} {fields : Json.Fields} {keys : List String}
    (leads : LeadsTo target (.object fields) keys) (notEmpty : keys ≠ []) {name : String}
    (other : keys.head? ≠ some name) :
    LeadsTo target (.object (Keyed.erase fields name)) keys := by
  cases leads with
  | here => exact absurd rfl notEmpty
  | @into _ key child rest ascending isChild below =>
      have different : key ≠ name := by
        rintro rfl
        exact other rfl
      refine .into (ascending.filter _) ?_ below
      rwa [Keyed.lookup_erase_of_ne fields different]

namespace BuilderType

/-- The keys of a template path that are followed inside what is resolved as a whole. -/
def innerKeys : BuilderType → List String → List String
  | nestedRows, "data" :: rest => rest
  | _, keys => keys

theorem innerKeys_of_ne {keys : List String} (builder : BuilderType)
    (other : keys.head? ≠ some "data") : builder.innerKeys keys = keys := by
  unfold innerKeys
  split
  · exact absurd rfl other
  · rfl

theorem mem_of_mem_innerKeys {builder : BuilderType} {keys : List String} {key : String}
    (member : key ∈ builder.innerKeys keys) : key ∈ keys := by
  unfold innerKeys at member
  split at member
  · exact List.mem_cons_of_mem _ member
  · exact member

end BuilderType

namespace CompiledDocument

/-- The part of the templates that holds a path of the template and is resolved as a
whole. -/
def partFor (compiled : CompiledDocument) : BuilderType → List String → Option TemplateTree
  | .nestedRows, "data" :: _ => compiled.data
  | _, _ => some compiled.body

theorem partFor_of_ne (compiled : CompiledDocument) {keys : List String} (builder : BuilderType)
    (other : keys.head? ≠ some "data") : compiled.partFor builder keys = some compiled.body := by
  unfold partFor
  split
  · exact absurd rfl other
  · rfl

/-- What stands at a path of the template when a row has resolved the part that holds
it. -/
def valueAt (compiled : CompiledDocument) (builder : BuilderType) (context : RowContext)
    (keys : List String) : Except TemplateError (Option Json) :=
  match compiled.partFor builder keys with
  | none => .ok none
  | some tree =>
      (tree.resolve builder.handlers context compiled.optionalFields).map fun found =>
        found.bind fun value => value.at? (builder.innerKeys keys)

/-- A row enters into the data of its document what stands at `data`, or `null` if that
is missing. -/
theorem exists_valueAt_of_enters {compiled : CompiledDocument} {context : RowContext}
    {key : String} {value : Json} (enters : NestedRows.Enters compiled context key value) :
    ∃ found : Option Json, value = found.getD .null ∧
      ∀ rest, compiled.valueAt .nestedRows context ("data" :: rest) =
        .ok (found.bind fun data => data.at? rest) := by
  obtain ⟨_, data, _, found, _, isData, _, _, resolves, rfl⟩ := enters
  refine ⟨found, rfl, ?_⟩
  intro rest
  rw [valueAt, partFor, isData]
  exact congrArg (Except.map _) resolves

/-- The body of a row, put under an id, has at a path what the row resolves there. -/
theorem valueAt_of_body {compiled : CompiledDocument} {builder : BuilderType}
    {context : RowContext} {found : Option Json}
    (resolves : compiled.body.resolve builder.handlers context compiled.optionalFields =
      .ok found)
    {keys : List String} (notEmpty : keys ≠ []) (notId : keys.head? ≠ some "id")
    (inBody : builder = .rowPerDocument ∨ keys.head? ≠ some "data") (id : String) :
    compiled.valueAt builder context keys =
      .ok (((found.getD (.object [])).withId id).at? keys) := by
  have isBody : compiled.partFor builder keys = some compiled.body := by
    rcases inBody with rfl | notData
    · rfl
    · exact compiled.partFor_of_ne builder notData
  have whole : builder.innerKeys keys = keys := by
    rcases inBody with rfl | notData
    · rfl
    · exact builder.innerKeys_of_ne notData
  cases keys with
  | nil => exact absurd rfl notEmpty
  | cons key rest =>
      have different : key ≠ "id" := fun same => notId (congrArg some same)
      rw [valueAt, isBody]
      dsimp only
      rw [resolves, whole, Json.at?, Json.field?_withId_of_ne _ id different]
      cases found with
      | none => rfl
      | some body => rfl

theorem optionalFields_of_compile {document : IngestDocument} {compiled : CompiledDocument}
    (compiles : compile document = .ok compiled) :
    compiled.optionalFields = document.optionalFields := by
  rw [compile] at compiles
  split at compiles
  · split at compiles
    · obtain ⟨id, _, compiles⟩ := bind_eq_ok_iff.mp compiles
      split at compiles
      · obtain ⟨⟨data, key⟩, _, compiles⟩ := bind_eq_ok_iff.mp compiles
        obtain ⟨body, _, compiles⟩ := bind_eq_ok_iff.mp compiles
        cases compiles
        rfl
      · obtain ⟨body, _, compiles⟩ := bind_eq_ok_iff.mp compiles
        cases compiles
        rfl
    · simp at compiles
  · simp at compiles

theorem exists_data {parameters fields : Json.Fields} {data : Option TemplateTree}
    {key : Option Token} (compiles : compileData parameters fields = .ok (data, key)) {part : Json}
    (isData : Keyed.lookup fields "data" = some part) :
    ∃ tree, data = some tree ∧ TemplateTree.compile part = .ok tree := by
  rw [compileData, isData] at compiles
  obtain ⟨_, dataCompiles, compiles⟩ := bind_eq_ok_iff.mp compiles
  obtain ⟨token, _, compiles⟩ := bind_eq_ok_iff.mp compiles
  obtain ⟨tree, treeCompiles, rfl⟩ := map_eq_ok_iff.mp dataCompiles
  cases compiles
  exact ⟨tree, rfl, treeCompiles⟩

/-- A path of the template other than the id leads into one part, and on inside it. -/
theorem exists_part {document : IngestDocument} {compiled : CompiledDocument}
    (compiles : compile document = .ok compiled) {keys : List String} {text : String}
    (leads : Json.LeadsTo (.string text) document.template keys)
    (notId : keys.head? ≠ some "id") :
    ∃ part tree, compiled.partFor document.builder keys = some tree ∧
      TemplateTree.compile part = .ok tree ∧
        Json.LeadsTo (.string text) part (document.builder.innerKeys keys) := by
  obtain ⟨fields, _, trees, object, _, _, body, parts⟩ := cases_of_compile compiles
  rw [object] at leads
  have notEmpty : keys ≠ [] := by
    rintro rfl
    cases leads
  have withoutId := leads.erase notEmpty notId
  rcases parts with ⟨rowPerDocument, _, treesCompile⟩ | ⟨nested, dataCompiles, treesCompile⟩
  · refine ⟨_, compiled.body, by rw [rowPerDocument]; rfl, ?_,
      by rw [rowPerDocument]; exact withoutId⟩
    rw [TemplateTree.compile, treesCompile, body]
    rfl
  · by_cases isData : keys.head? = some "data"
    · cases withoutId with
      | @into _ key child rest _ isChild below =>
          cases Option.some.inj isData
          obtain ⟨tree, same, treeCompiles⟩ := exists_data dataCompiles isChild
          exact ⟨child, tree, by rw [nested]; exact same, treeCompiles, by rw [nested]; exact below⟩
    · refine ⟨_, compiled.body, compiled.partFor_of_ne _ isData, ?_,
        (BuilderType.innerKeys_of_ne _ isData).symm ▸ withoutId.erase notEmpty isData⟩
      rw [TemplateTree.compile, treesCompile, body]
      rfl

end CompiledDocument

namespace IngestDocument

/-- Whether the optional fields tell of every composite that object keys lead to, by the
text that `pathOf` makes of these keys, whether its missing pieces are tolerated. -/
def MarksOptional (pathOf : BuilderType → List String → String) (document : IngestDocument) :
    Prop :=
  ∀ compiled, CompiledDocument.compile document = .ok compiled →
    ∀ keys text pieces, (∀ key ∈ keys, key ≠ "" ∧ '.' ∉ key.toList) → keys.head? ≠ some "id" →
      Json.LeadsTo (.string text) document.template keys →
        Token.ofTemplate text = .ok (.composite pieces) →
          ∀ context value, compiled.valueAt document.builder context keys = .ok value →
            (pathOf document.builder keys ∈ document.optionalFields →
              Token.Tolerates document.builder.handlers context pieces value) ∧
            (pathOf document.builder keys ∉ document.optionalFields →
              Token.Requires document.builder.handlers context pieces value)

/-- A composite is optional if and only if its path inside the part that is resolved as a
whole is listed: for nested rows, what stands behind `data`. -/
theorem marksOptional_innerKeys (document : IngestDocument) :
    document.MarksOptional fun builder keys => ".".intercalate (builder.innerKeys keys) := by
  intro compiled compiles keys text pieces names notId leads isComposite context value isValue
  obtain ⟨part, tree, isPart, partCompiles, inner⟩ :=
    CompiledDocument.exists_part compiles leads notId
  rw [CompiledDocument.valueAt, isPart] at isValue
  obtain ⟨found, resolves, rfl⟩ := map_eq_ok_iff.mp isValue
  obtain ⟨token, resolved, parsed, tokenResolves, same⟩ :=
    TemplateTree.at?_of_resolveAt inner partCompiles resolves
  cases isComposite.symm.trans parsed
  have innerNames : ∀ key ∈ document.builder.innerKeys keys, key ≠ "" :=
    fun key member => (names key (BuilderType.mem_of_mem_innerKeys member)).1
  have spec := Token.composite_spec isComposite tokenResolves
  rw [TemplateTree.foldl_childPath_root innerNames,
    CompiledDocument.optionalFields_of_compile compiles] at spec
  dsimp only
  rw [same]
  constructor
  · intro listed
    rwa [if_pos (List.contains_iff_mem.mpr listed)] at spec
  · intro unlisted
    rwa [if_neg (by simpa using unlisted)] at spec

/-- Nested rows whose data may lack a dew point, if the optional fields say so. -/
def dewPoints (optionalFields : List String) : IngestDocument :=
  { blank with
    id := "obs"
    builder := .nestedRows
    template := .object
      [("data", .object [("dewpoint", .string "D:*dewpoint")]), ("id", .string "X")]
    optionalFields }

def dewPointsCompiled (optionalFields : List String) : CompiledDocument :=
  ⟨.literal "X", .object [],
    some (.object [("dewpoint", .token (.composite [.literal "D", .field "dewpoint"]))]),
    some (.field "name"), optionalFields⟩

theorem leadsTo_dewPoints (optionalFields : List String) :
    Json.LeadsTo (.string "D:*dewpoint") (dewPoints optionalFields).template
      ["data", "dewpoint"] :=
  .into (List.pairwise_pair.mpr (by decide)) rfl (.into (List.pairwise_singleton _ _) rfl .here)

/-- A row without a dew point. -/
def dryRow : RowContext :=
  ⟨.rows ⟨[], [[("name", .string "a")]]⟩, 0, []⟩

theorem marksOptional_innerKeys_dewPoints :
    (dewPointsCompiled ["dewpoint"]).valueAt .nestedRows dryRow ["data", "dewpoint"] =
        .ok (some (.string "D:")) ∧
      Token.Tolerates BuilderType.nestedRows.handlers dryRow [.literal "D", .field "dewpoint"]
        (some (.string "D:")) := by
  have isValue : (dewPointsCompiled ["dewpoint"]).valueAt .nestedRows dryRow
      ["data", "dewpoint"] = .ok (some (.string "D:")) := by
    rfl
  have marks := marksOptional_innerKeys (dewPoints ["dewpoint"]) (dewPointsCompiled _) rfl
    ["data", "dewpoint"] "D:*dewpoint" [.literal "D", .field "dewpoint"] (by decide +kernel)
    (by decide) (leadsTo_dewPoints _) (by rfl) dryRow _ isValue
  exact ⟨isValue, marks.1 (by decide)⟩

/-- Written from the root of the template, the path of a composite in the data of nested
rows makes nothing optional. -/
theorem not_marksOptional_keys :
    ¬∀ document : IngestDocument, document.MarksOptional fun _ keys => ".".intercalate keys := by
  intro marksOptional
  have isValue : (dewPointsCompiled ["data.dewpoint"]).valueAt .nestedRows dryRow
      ["data", "dewpoint"] = .ok none := by
    rfl
  have marks := marksOptional (dewPoints ["data.dewpoint"]) (dewPointsCompiled _) rfl
    ["data", "dewpoint"] "D:*dewpoint" [.literal "D", .field "dewpoint"] (by decide +kernel)
    (by decide) (leadsTo_dewPoints _) (by rfl) dryRow _ isValue
  obtain ⟨keys, _, same⟩ := marks.1 (by decide +kernel)
  simp at same

end IngestDocument

end DocumentIngest
