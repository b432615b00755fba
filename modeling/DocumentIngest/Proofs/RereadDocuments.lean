import DocumentIngest.Dataset.StoredRecord
import DocumentIngest.Proofs.NestedDocuments
import DocumentIngest.Proofs.StoredCells

/-!
# Documents of nested rows, read again

What rows entered into the data of a document are rows again when the document is
read back: one for each key, in the order of the keys, with the key as its name unless
the row has a name itself.  What stands beside the data without structure is told as
metadata.  Reading hides masked cells wherever they come from, so a key that spells
"nan" is told by no name.
-/

namespace DocumentIngest

open Fallible

namespace StoredRecord

/-- The row that an entry of some data is read as. -/
def rowOf (entry : String × Json) : Json.Fields :=
  named entry.1 (entry.2.asFields?.getD [])

theorem rowsByName_of_objects (field : String) {data : Json.Fields}
    (objects : ∀ entry ∈ data, ∃ fields, entry.2 = .object fields) :
    rowsByName field data = .ok (data.map rowOf) := by
  induction data with
  | nil => rfl
  | cons entry rest ih =>
      obtain ⟨key, value⟩ := entry
      obtain ⟨fields, rfl⟩ := objects (key, value) List.mem_cons_self
      have behind := ih fun other member => objects other (List.mem_cons_of_mem _ member)
      rw [rowsByName, behind]
      rfl

theorem lookup_named (key : String) (fields : Json.Fields) (name : String) :
    Keyed.lookup (named key fields) name =
      if name = "name" ∧ Keyed.hasKey fields "name" = false then some (.string key)
      else Keyed.lookup fields name := by
  rw [named]
  cases Keyed.hasKey fields "name" with
  | true => simp
  | false => simp [Keyed.lookup_insert]

/-- What a name that a row is given shows: texts that spell "nan" are hidden. -/
def shownName (key : String) : Option Json :=
  if key.toList.map Char.toLower = ['n', 'a', 'n'] then none else some (.string key)

theorem unmask_string (fill : Option Binary64) (key : String) :
    Dataset.unmask fill (.string key) = shownName key := by
  simp only [Dataset.unmask, Dataset.isMasked, shownName, beq_iff_eq]

/-- How a dataset tells an entry of some data at a row, where `shows` says what a key
shows as the name of an entry without one. -/
structure TellsEntry (shows : String → Option Json) (read : Dataset) (row : Nat) (key : String)
    (entry : Json.Fields) : Prop where
  own : ∀ name, (name = "name" → Keyed.hasKey entry "name" = true) →
    read.field name row = (Keyed.lookup entry name).bind (Dataset.unmask read.fill)
  named : Keyed.hasKey entry "name" = false → read.field "name" row = shows key

/-- Whether a document with data is read as a dataset of its entries, in the order of
their keys, and of its fields without structure. -/
structure Retells (shows : String → Option Json) (document : Json) (top data : Json.Fields)
    (read : Dataset) : Prop where
  isObject : document = .object top
  holds : Keyed.lookup top "data" = some (.object data)
  ascending : Keyed.Ascending data
  succeeds : dataset document "data" = .ok read
  rowCount : read.rowCount = data.length
  entries : ∀ {row key value}, data[row]? = some (key, value) →
    ∃ entry, value = .object entry ∧ TellsEntry shows read row key entry
  metadata : read.metadataFields = top.filter fun field => isPlain field.2

variable {top data : Json.Fields}

theorem filter_erase (structured : ∀ field ∈ top, field.1 = "data" → isPlain field.2 = false) :
    (Keyed.erase top "data").filter (fun field => isPlain field.2) =
      top.filter fun field => isPlain field.2 := by
  rw [Keyed.erase, List.filter_filter]
  apply List.filter_congr
  intro field member
  by_cases isData : field.1 = "data"
  · rw [structured field member isData, Bool.false_and]
  · simp [isData]

theorem retells_of_objects (holds : Keyed.lookup top "data" = some (.object data))
    (structured : ∀ field ∈ top, field.1 = "data" → isPlain field.2 = false)
    (ascending : Keyed.Ascending data)
    (objects : ∀ entry ∈ data, ∃ fields, entry.2 = .object fields) :
    ∃ read, Retells shownName (.object top) top data read := by
  refine ⟨.rows ⟨top.filter fun field => isPlain field.2, data.map rowOf⟩, rfl, holds, ascending,
    ?_, List.length_map _, ?_, rfl⟩
  · simp only [dataset, holds, rowsByName_of_objects "data" objects, filter_erase structured]
    rfl
  · intro row key value here
    obtain ⟨entry, isObject⟩ := objects (key, value) (List.mem_of_getElem? here)
    dsimp only at isObject
    subst isObject
    have told (name : String) : (Dataset.rows
          ⟨top.filter fun field => isPlain field.2, data.map rowOf⟩).storedCell name row =
        Keyed.lookup (named key entry) name := by
      simp only [Dataset.storedCell, List.getElem?_map, here]
      rfl
    refine ⟨entry, rfl, ?_, ?_⟩
    · intro name ownName
      rw [Dataset.field_eq, told, lookup_named, if_neg]
      rintro ⟨isName, nameless⟩
      rw [ownName isName] at nameless
      cases nameless
    · intro nameless
      rw [Dataset.field_eq, told, lookup_named, if_pos ⟨rfl, nameless⟩]
      exact unmask_string _ key

end StoredRecord

theorem CompiledDocument.data_of_object {document : IngestDocument} {compiled : CompiledDocument}
    (compiles : compile document = .ok compiled) (nested : document.builder = .nestedRows)
    {inner : Json.Fields} (template : document.template.field? "data" = some (.object inner)) :
    ∃ trees, compiled.data = some (.object trees) := by
  obtain ⟨fields, _, _, object, _, _, _, ⟨rowPerDocument, _⟩ | ⟨_, dataCompiles, _⟩⟩ :=
    cases_of_compile compiles
  · rw [nested] at rowPerDocument
    cases rowPerDocument
  rw [object, Json.field?, ← Keyed.lookup_erase_of_ne fields (by decide : "data" ≠ "id")] at template
  rw [compileData, template] at dataCompiles
  obtain ⟨data, parses, compiles⟩ := bind_eq_ok_iff.mp dataCompiles
  obtain ⟨key, _, compiles⟩ := bind_eq_ok_iff.mp compiles
  obtain ⟨tree, isTree, rfl⟩ := map_eq_ok_iff.mp parses
  rw [TemplateTree.compile] at isTree
  obtain ⟨trees, _, rfl⟩ := map_eq_ok_iff.mp isTree
  have parsed := Except.ok.inj compiles
  exact ⟨trees, (congrArg Prod.fst parsed).symm⟩

namespace NestedRows

variable {document : IngestDocument} {compiled : CompiledDocument}

/-- Rows enter objects where the data are an object of templates. -/
theorem isObject_of_enters {trees : List (String × TemplateTree)}
    (data : compiled.data = some (.object trees)) {context : RowContext} {key : String}
    {value : Json} (enters : Enters compiled context key value) :
    ∃ fields, value = .object fields := by
  obtain ⟨_, _, _, found, _, isData, _, _, resolves, rfl⟩ := enters
  rw [data] at isData
  cases isData
  obtain ⟨fields, rfl, _⟩ := TemplateTree.isObject_of_resolve resolves
  exact ⟨fields, rfl⟩

/-- What nested rows write with an object as their data is read back: a row for each
key, in order, with the entry's fields as far as they are not masked and the key as its
name, unless the entry has a name or the key spells "nan", and the fields without
structure as metadata, the id among them. -/
theorem retells (compiles : CompiledDocument.compile document = .ok compiled)
    (nested : document.builder = .nestedRows) {inner : Json.Fields}
    (template : document.template.field? "data" = some (.object inner)) (dataset : Dataset)
    (parameters : Json.Fields) {id : String} {built : Json}
    (found : Keyed.lookup (build compiled dataset parameters).documents id = some built) :
    ∃ top data read, StoredRecord.Retells StoredRecord.shownName built top data read ∧
      read.metadata "id" = some (.string id) := by
  obtain ⟨trees, isObject⟩ := CompiledDocument.data_of_object compiles nested template
  have hasData : compiled.data ≠ none := isObject ▸ Option.some_ne_none _
  have nestable := nestable_of_compile compiles
  have grows := grows_afterRows nestable (dataset.contextAt parameters) id dataset.rowCount
  change Grows _ _ _ _ (Keyed.lookup (build compiled dataset parameters).documents id) at grows
  rw [found] at grows
  cases grows with
  | @opened first header _ below opens unopened heads grown =>
      obtain ⟨data, gathers, rfl⟩ := grown.filled hasData
      obtain ⟨_, same, free⟩ := nestable.header heads
      cases same
      -- the header leaves the place of the data free
      have structured : ∀ field ∈ Keyed.insert (Keyed.insert header "id" (.string id)) "data"
          (.object data), field.1 = "data" → StoredRecord.isPlain field.2 = false := by
        intro field member isData
        rcases Keyed.mem_of_mem_insert member with rfl | member
        · rfl
        rcases Keyed.mem_of_mem_insert member with rfl | member
        · exact absurd isData (by decide : "id" ≠ "data")
        · exact absurd isData (Keyed.ne_of_lookup_eq_none (free hasData) field member)
      -- each entry is there because some row entered it, and rows enter objects
      have objects : ∀ entry ∈ data, ∃ fields, entry.2 = .object fields := by
        intro entry member
        obtain ⟨last, _, _, _, enters, _⟩ :=
          (gathers.latest entry.1 entry.2).mp (Keyed.lookup_of_mem gathers.ascending member)
        exact isObject_of_enters isObject enters
      obtain ⟨read, retells⟩ := StoredRecord.retells_of_objects
        (Keyed.lookup_insert_self _ _ _) structured gathers.ascending objects
      refine ⟨_, data, read, retells, ?_⟩
      have isId : Keyed.lookup (Keyed.insert (Keyed.insert header "id" (.string id)) "data"
          (.object data)) "id" = some (.string id) := by
        rw [Keyed.lookup_insert_of_ne _ _ (by decide), Keyed.lookup_insert_self]
      rw [Dataset.metadata, retells.metadata]
      exact Keyed.lookup_filter isId rfl

end NestedRows

theorem NestedRows.retells_readings :
    CompiledDocument.compile .readings = .ok .readings ∧
      ∃ top data read,
        StoredRecord.Retells StoredRecord.shownName
            (.object
              [("data", .object [("a", .object [("t", .ofNat 2)])]), ("id", .string "KDEN"),
                ("type", .string "OB")]) top data read ∧
          read.metadata "id" = some (.string "KDEN") := by
  have compiles : CompiledDocument.compile .readings = .ok .readings := rfl
  exact ⟨compiles, retells compiles rfl rfl .twoReadings [] rfl⟩

/-- All rows in one document, under a key that spells "nan". -/
def IngestDocument.unnamed : IngestDocument :=
  { IngestDocument.blank with
    id := "unnamed"
    builder := .nestedRows
    template := .object [("data", .object [("t", .string "*temp")]), ("id", .string "X")]
    parameters := [("data_key", .string "nan")] }

/-- What its templates are parsed to. -/
def CompiledDocument.unnamed : CompiledDocument :=
  { id := .literal "X"
    body := .object []
    data := some (.object [("t", .token (.field "temp"))])
    dataKey := some (.literal "nan")
    optionalFields := [] }

def Dataset.oneTemperature : Dataset :=
  .rows ⟨[], [[("temp", .ofNat 3)]]⟩

/-- Not every key is told as the name of its row. -/
theorem NestedRows.not_retells_every_key :
    ¬∀ (document : IngestDocument) (compiled : CompiledDocument) (inner : Json.Fields)
        (dataset : Dataset) (parameters : Json.Fields) (id : String) (built : Json),
      CompiledDocument.compile document = .ok compiled → document.builder = .nestedRows →
        document.template.field? "data" = some (.object inner) →
          Keyed.lookup (build compiled dataset parameters).documents id = some built →
            ∃ top data read,
              StoredRecord.Retells (fun key => some (.string key)) built top data read ∧
                read.metadata "id" = some (.string id) := by
  intro everyKey
  obtain ⟨top, data, read, retells, _⟩ := everyKey .unnamed .unnamed _ .oneTemperature [] "X" _
    rfl rfl rfl rfl
  obtain ⟨isObject, holds, _, succeeds, _, entries, _⟩ := retells
  cases isObject
  cases holds
  cases succeeds
  obtain ⟨entry, isEntry, _, named⟩ := @entries 0 _ _ rfl
  cases isEntry
  exact absurd (named rfl) (by decide)

end DocumentIngest
