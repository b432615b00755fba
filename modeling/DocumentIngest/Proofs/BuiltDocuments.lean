import DocumentIngest.Proofs.Fallible
import DocumentIngest.Proofs.RowSteps

/-!
# What built documents are like

Every document that is built is a resolved body with an id set on it, shared out
over an id list or extended by rows, and it stands under that id.  A property
that such a document has from the start and that sharing and extending keep is
one of all documents built.
-/

namespace DocumentIngest

open Fallible

namespace CompiledDocument

/-- What compiling an ingest document parses: the id, a body of the other fields, which
is an object, and for nested rows the data and the key apart from it. -/
theorem cases_of_compile {document : IngestDocument} {compiled : CompiledDocument}
    (compiles : compile document = .ok compiled) :
    ∃ fields template trees, document.template = .object fields ∧
      Keyed.lookup fields "id" = some (.string template) ∧
        Token.ofTemplate template = .ok compiled.id ∧ compiled.body = .object trees ∧
          ((document.builder = .rowPerDocument ∧ compiled.data = none ∧
              TemplateTree.compileFields (Keyed.erase fields "id") = .ok trees) ∨
            (document.builder = .nestedRows ∧
              compileData document.parameters (Keyed.erase fields "id") =
                .ok (compiled.data, compiled.dataKey) ∧
              TemplateTree.compileFields (Keyed.erase (Keyed.erase fields "id") "data") =
                .ok trees)) := by
  rw [compile] at compiles
  split at compiles
  · next fields object =>
      split at compiles
      · next template found =>
          obtain ⟨id, parsed, compiles⟩ := bind_eq_ok_iff.mp compiles
          have idParsed := mapError_eq_ok_iff.mp parsed
          split at compiles
          · next nested =>
              obtain ⟨⟨data, key⟩, dataParsed, compiles⟩ := bind_eq_ok_iff.mp compiles
              obtain ⟨body, bodyParsed, compiles⟩ := bind_eq_ok_iff.mp compiles
              cases compiles
              have dataCompiles := mapError_eq_ok_iff.mp dataParsed
              have bodyCompiles := mapError_eq_ok_iff.mp bodyParsed
              rw [TemplateTree.compile, map_eq_ok_iff] at bodyCompiles
              obtain ⟨trees, treesCompile, rfl⟩ := bodyCompiles
              exact ⟨fields, template, trees, object, found, idParsed, rfl,
                .inr ⟨nested, dataCompiles, treesCompile⟩⟩
          · next rowPerDocument =>
              obtain ⟨body, bodyParsed, compiles⟩ := bind_eq_ok_iff.mp compiles
              cases compiles
              have bodyCompiles := mapError_eq_ok_iff.mp bodyParsed
              rw [TemplateTree.compile, map_eq_ok_iff] at bodyCompiles
              obtain ⟨trees, treesCompile, rfl⟩ := bodyCompiles
              exact ⟨fields, template, trees, object, found, idParsed, rfl,
                .inl ⟨rowPerDocument, rfl, treesCompile⟩⟩
      · simp at compiles
  · simp at compiles

end CompiledDocument

/-- Whether every document of a map has a property together with its id. -/
def DocumentMap.All (P : String → Json → Prop) (documents : DocumentMap) : Prop :=
  ∀ entry ∈ documents, P entry.1 entry.2

section Building

variable {P : String → Json → Prop}

theorem DocumentMap.all_nil : DocumentMap.All P [] := by
  simp [DocumentMap.All]

theorem DocumentMap.All.imp {Q : String → Json → Prop} {documents : DocumentMap}
    (all : documents.All P) (implies : ∀ id document, P id document → Q id document) :
    documents.All Q :=
  fun entry member => implies entry.1 entry.2 (all entry member)

namespace BuildOutcome

theorem all_put {outcome : BuildOutcome} (all : outcome.documents.All P) {id : String}
    {document : Json} (holds : P id document) : (outcome.put id document).documents.All P := by
  intro entry member
  rcases Keyed.mem_of_mem_insert member with rfl | known
  · exact holds
  · exact all entry known

end BuildOutcome

/-- What holds of every document that an ingest document starts, whatever the
dataset, and is kept when a document is shared out or extended. -/
structure CompiledDocument.Ensures (compiled : CompiledDocument) (P : String → Json → Prop) :
    Prop where
  /-- A body under the key text of its id. -/
  alone : ∀ provided context id body key,
    compiled.id.resolve provided context false = .ok id → id.asKey? = some key →
      compiled.body.resolve provided context compiled.optionalFields = .ok body →
        P key ((body.getD (.object [])).withId key)
  /-- The share of a body under an element of its id list. -/
  shared : ∀ provided context ids body element key index,
    compiled.id.resolve provided context false = .ok (.list ids) → element ∈ ids →
      (Resolved.ofJson element).asKey? = some key →
        compiled.body.resolve provided context compiled.optionalFields = .ok body →
          P key ((RowPerDocument.share index ids.length (body.getD (.object []))).withId key)
  extended : ∀ id document key value, P id document → P id (NestedRows.enter document key value)

variable {compiled : CompiledDocument}

namespace RowPerDocument

theorem all_addElements {body : Json} {width : Nat} (elements : List Json) (index : Nat)
    {outcome : BuildOutcome} (all : outcome.documents.All P)
    (holds : ∀ element ∈ elements, ∀ key index, (Resolved.ofJson element).asKey? = some key →
      P key ((share index width body).withId key)) :
    (addElements body width index outcome elements).documents.All P := by
  induction elements generalizing index outcome with
  | nil => exact all
  | cons element rest ih =>
      rw [addElements]
      apply ih
      · split
        · next key found =>
            exact BuildOutcome.all_put all (holds element List.mem_cons_self key index found)
        · exact all
      · exact fun other member => holds other (List.mem_cons_of_mem _ member)

theorem all_addRow (ensures : compiled.Ensures P) (context : RowContext) {outcome : BuildOutcome}
    (all : outcome.documents.All P) : (addRow compiled context outcome).documents.All P := by
  rw [addRow]
  split
  · exact all
  · exact all
  · next id _ resolved =>
      split
      · exact all
      · next body bodyResolved =>
          dsimp only
          split
          · next ids _ =>
              apply all_addElements ids 0 all
              intro element member key position found
              exact ensures.shared _ _ ids body element key position resolved member found
                bodyResolved
          · split
            · next key found =>
                exact BuildOutcome.all_put all
                  (ensures.alone _ _ id body key resolved found bodyResolved)
            · exact all

end RowPerDocument

namespace NestedRows

/-- A document with what a row enters into it, if that is anything. -/
def withEntry (document : Json) : Option (String × Json) → Json
  | none => document
  | some (key, value) => enter document key value

theorem documents_putEntry (outcome : BuildOutcome) (id : String) (document : Json)
    (entry : Option (String × Json)) :
    (putEntry outcome id document entry).documents =
      Keyed.insert outcome.documents id (withEntry document entry) := by
  rcases entry with _ | ⟨key, value⟩
  · rfl
  · cases document <;> rfl

theorem all_putEntry (ensures : compiled.Ensures P) {outcome : BuildOutcome}
    (all : outcome.documents.All P) {id : String} {document : Json} (holds : P id document)
    (entry : Option (String × Json)) : (putEntry outcome id document entry).documents.All P := by
  have entered : P id (withEntry document entry) := by
    rcases entry with _ | ⟨key, value⟩
    · exact holds
    · exact ensures.extended id document key value holds
  rw [documents_putEntry]
  exact BuildOutcome.all_put all entered

theorem holds_documentFor (ensures : compiled.Ensures P) {context : RowContext}
    {documents : DocumentMap} (all : documents.All P) {id : Resolved} {key : String}
    (resolved : compiled.id.resolve BuilderType.nestedRows.handlers context false = .ok id)
    (found : id.asKey? = some key) {document : Json}
    (started : documentFor compiled context documents key = some document) : P key document := by
  rw [documentFor] at started
  split at started
  · next known =>
      cases started
      exact all (key, document) (Keyed.mem_of_lookup known)
  · split at started
    · simp at started
    · next body bodyResolved =>
        cases started
        exact ensures.alone _ _ id body key resolved found bodyResolved

theorem all_addRow (ensures : compiled.Ensures P) (context : RowContext) {outcome : BuildOutcome}
    (all : outcome.documents.All P) : (addRow compiled context outcome).documents.All P := by
  rw [addRow]
  split
  · exact all
  next id resolved =>
  split
  · exact all
  next key found =>
  split
  · exact all
  next entry _ =>
  split
  · exact all
  next document started =>
  exact all_putEntry ensures all (holds_documentFor ensures all resolved found started) entry

end NestedRows

namespace Assembler

theorem all_addRow (ensures : compiled.Ensures P) (builder : BuilderType) (context : RowContext)
    {outcome : BuildOutcome} (all : outcome.documents.All P) :
    (addRow builder compiled context outcome).documents.All P := by
  cases builder with
  | rowPerDocument => exact RowPerDocument.all_addRow ensures context all
  | nestedRows => exact NestedRows.all_addRow ensures context all

theorem all_addRows (ensures : compiled.Ensures P) (builder : BuilderType) (dataset : Dataset)
    (parameters : Json.Fields) (count : Nat) :
    (addRows builder compiled dataset parameters count).documents.All P :=
  BuildOutcome.afterRows_invariant (fun _ outcome => outcome.documents.All P)
    DocumentMap.all_nil (fun _ _ all => all_addRow ensures builder _ all) count

theorem all_assemble (ensures : compiled.Ensures P) (builder : BuilderType)
    (dataset : Dataset) (parameters : Json.Fields) :
    (assemble builder compiled dataset parameters).documents.All P := by
  rw [assemble_eq]
  exact all_addRows ensures builder dataset parameters dataset.rowCount

end Assembler

end Building

namespace Json

/-- Whether a document is an object with an id as its `id` field. -/
def Carries (id : String) (document : Json) : Prop :=
  ∃ fields, document = .object fields ∧ Keyed.lookup fields "id" = some (.string id)

theorem carries_withId (fields : Fields) (id : String) :
    Carries id ((object fields).withId id) :=
  ⟨_, rfl, Keyed.lookup_insert_self fields "id" (.string id)⟩

theorem textField?_of_carries {id : String} {document : Json} (carries : Carries id document) :
    document.textField? "id" = some id := by
  obtain ⟨fields, rfl, found⟩ := carries
  simp [textField?, field?, found, asText?]

/-- What rows enter into a document leaves all fields but `data` alone. -/
theorem field?_enter (document : Json) (key : String) (value : Json) {name : String}
    (different : name ≠ "data") :
    (NestedRows.enter document key value).field? name = document.field? name := by
  cases document with
  | object fields =>
      rw [NestedRows.enter]
      split
      · exact Keyed.lookup_insert_of_ne fields _ different
      · exact Keyed.lookup_insert_of_ne fields _ different
      · rfl
  | null => rfl
  | bool flag => rfl
  | number number => rfl
  | string text => rfl
  | array items => rfl

end Json

theorem TemplateTree.isObject_of_resolve {trees : List (String × TemplateTree)}
    {provided : List Handler} {context : RowContext} {optionally : List String}
    {body : Option Json}
    (resolved : (object trees).resolve provided context optionally = .ok body) :
    ∃ fields, body = some (.object fields) ∧
      resolveFields provided context optionally "" trees = .ok fields := by
  rw [resolve, resolveAt, map_eq_ok_iff] at resolved
  obtain ⟨fields, fieldsResolved, rfl⟩ := resolved
  exact ⟨fields, rfl, fieldsResolved⟩

theorem CompiledDocument.ensures_carries {document : IngestDocument}
    {compiled : CompiledDocument} (compiles : compile document = .ok compiled) :
    compiled.Ensures Json.Carries := by
  obtain ⟨_, _, trees, _, _, _, isObject, _⟩ := cases_of_compile compiles
  constructor
  · intro provided context id body key _ _ resolved
    rw [isObject] at resolved
    obtain ⟨fields, rfl, _⟩ := TemplateTree.isObject_of_resolve resolved
    exact Json.carries_withId fields key
  · intro provided context ids body element key index _ _ _ resolved
    rw [isObject] at resolved
    obtain ⟨fields, rfl, _⟩ := TemplateTree.isObject_of_resolve resolved
    exact Json.carries_withId _ key
  · rintro id document key value ⟨fields, rfl, found⟩
    have same := Json.field?_enter (.object fields) key value (by decide : "id" ≠ "data")
    rw [NestedRows.enter] at same ⊢
    split at same <;> exact ⟨_, rfl, same.trans found⟩

/-- Resolving a field puts it before the others, unless it is missing. -/
theorem TemplateTree.resolveFields_cons {provided : List Handler} {context : RowContext}
    {optionally : List String} {path name : String} {child : TemplateTree}
    {rest : List (String × TemplateTree)} {fields : Json.Fields}
    (resolved : resolveFields provided context optionally path ((name, child) :: rest) =
      .ok fields) :
    ∃ value others,
      resolveAt provided context optionally (childPath path name) child = .ok value ∧
        resolveFields provided context optionally path rest = .ok others ∧
          ∀ key, Keyed.lookup fields key =
            if key = name then value.or (Keyed.lookup others key)
            else Keyed.lookup others key := by
  rw [resolveFields] at resolved
  obtain ⟨value, childResolved, resolved⟩ := bind_eq_ok_iff.mp resolved
  obtain ⟨others, restResolved, resolved⟩ := bind_eq_ok_iff.mp resolved
  refine ⟨value, others, childResolved, restResolved, ?_⟩
  cases value with
  | some present =>
      cases resolved
      exact fun key => rfl
  | none =>
      cases resolved
      simp

/-- A field whose template is a constant resolves to that constant, and one without a
template to nothing. -/
theorem TemplateTree.lookup_resolveFields {provided : List Handler} {context : RowContext}
    {optionally : List String} {path name : String} {constant : Option String}
    {trees : List (String × TemplateTree)} {fields : Json.Fields}
    (isConstant : Keyed.lookup trees name = constant.map fun text => token (.literal text))
    (resolved : resolveFields provided context optionally path trees = .ok fields) :
    Keyed.lookup fields name = constant.map .string := by
  induction trees generalizing fields with
  | nil =>
      cases resolved
      cases constant with
      | none => rfl
      | some text => simp at isConstant
  | cons entry rest ih =>
      obtain ⟨other, child⟩ := entry
      obtain ⟨value, others, childResolved, restResolved, laid⟩ := resolveFields_cons resolved
      rw [Keyed.lookup] at isConstant
      rw [laid]
      by_cases same : name = other
      · rw [if_pos same] at isConstant ⊢
        cases constant with
        | none => simp at isConstant
        | some text =>
            cases isConstant
            cases childResolved
            rfl
      · rw [if_neg same] at isConstant ⊢
        exact ih isConstant restResolved

theorem RowPerDocument.lookup_shareFields (index width : Nat) (fields : Json.Fields)
    (name : String) :
    Keyed.lookup (shareFields index width fields) name =
      (Keyed.lookup fields name).map (share index width) := by
  induction fields with
  | nil => rfl
  | cons entry rest ih =>
      obtain ⟨other, value⟩ := entry
      rw [shareFields, Keyed.lookup, Keyed.lookup]
      split
      · rfl
      · exact ih

/-- A field whose template is a constant, or that has no template, is the same in all
documents that are built, unless it is the id or takes the data of rows. -/
theorem CompiledDocument.ensures_constant {compiled : CompiledDocument}
    {trees : List (String × TemplateTree)} (body : compiled.body = .object trees) {name : String}
    (notId : name ≠ "id") (notData : name ≠ "data") {constant : Option String}
    (isConstant : Keyed.lookup trees name = constant.map fun text => .token (.literal text)) :
    compiled.Ensures fun _ document => document.field? name = constant.map .string where
  alone := by
    intro provided context id resolvedBody key _ _ resolved
    rw [body] at resolved
    obtain ⟨fields, rfl, fieldsResolved⟩ := TemplateTree.isObject_of_resolve resolved
    exact (Keyed.lookup_insert_of_ne fields _ notId).trans
      (TemplateTree.lookup_resolveFields isConstant fieldsResolved)
  shared := by
    intro provided context ids resolvedBody element key index _ _ _ resolved
    rw [body] at resolved
    obtain ⟨fields, rfl, fieldsResolved⟩ := TemplateTree.isObject_of_resolve resolved
    have field := TemplateTree.lookup_resolveFields isConstant fieldsResolved
    refine (Keyed.lookup_insert_of_ne _ _ notId).trans ?_
    rw [RowPerDocument.lookup_shareFields, field]
    cases constant with
    | none => rfl
    | some text => rfl
  extended := fun _ document key value field =>
    (Json.field?_enter document key value notData).trans field

end DocumentIngest
