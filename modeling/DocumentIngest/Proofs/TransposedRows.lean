import DocumentIngest.Proofs.NestedDocuments
import DocumentIngest.Proofs.RowwiseTemplates
import DocumentIngest.Proofs.StoredCells

/-!
# Rows turned into columns

Row objects can be written as a table: every field that some row has becomes an
array with a cell for each row, `null` where a row lacks the field.  If there is a
field at all, the table has as many rows and shows the same cells, so both layouts
build the same documents.  Only whole columns tell them apart.
-/

namespace DocumentIngest

namespace Keyed

variable {α : Type}

theorem mem_keys_of_lookup {entries : Keyed α} {key : String} {value : α}
    (found : lookup entries key = some value) : key ∈ keys entries :=
  List.mem_map.mpr ⟨_, mem_of_lookup found, rfl⟩

/-- Looking up what was stored under each of several names, by one rule for all. -/
theorem lookup_ofPairs_map (names : List String) (valueOf : String → α) (asked : String) :
    lookup (ofPairs (names.map fun name => (name, valueOf name))) asked =
      if asked ∈ names then some (valueOf asked) else none := by
  induction names using List.reverseRecOn with
  | nil => rfl
  | append_singleton earlier name ih =>
      rw [ofPairs] at ih
      rw [ofPairs, List.map_append, List.foldl_append, List.map_singleton, List.foldl_cons,
        List.foldl_nil, lookup_insert, ih]
      by_cases same : asked = name
      · subst asked
        simp
      · simp [same]

end Keyed

namespace RowList

/-- The names of the fields that rows have. -/
def fieldNames (list : RowList) : List String :=
  list.rows.flatMap Keyed.keys

/-- The cells of a field in all rows, `null` where a row lacks it. -/
def cellsOf (list : RowList) (name : String) : List Json :=
  list.rows.map fun fields => (Keyed.lookup fields name).getD .null

/-- The same rows, written as a table. -/
def transposed (list : RowList) : Table where
  metadata := list.metadata
  columns := Keyed.ofPairs (list.fieldNames.map fun name => (name, .array (list.cellsOf name)))

variable {list : RowList}

theorem length_cellsOf (list : RowList) (name : String) :
    (list.cellsOf name).length = list.rowCount :=
  List.length_map _

theorem lookup_transposed (list : RowList) (name : String) :
    Keyed.lookup list.transposed.columns name =
      if name ∈ list.fieldNames then some (.array (list.cellsOf name)) else none :=
  Keyed.lookup_ofPairs_map list.fieldNames (fun name => Json.array (list.cellsOf name)) name

theorem lookup_of_not_mem_fieldNames {name : String} (absent : name ∉ list.fieldNames)
    {fields : Json.Fields} (member : fields ∈ list.rows) : Keyed.lookup fields name = none := by
  cases found : Keyed.lookup fields name with
  | none => rfl
  | some value =>
      exfalso
      apply absent
      exact List.mem_flatMap.mpr ⟨fields, member, Keyed.mem_keys_of_lookup found⟩

theorem rowCount_transposed (there : ∃ fields ∈ list.rows, fields ≠ []) :
    list.transposed.rowCount = list.rowCount := by
  apply Table.rowCount_of_forall
  · obtain ⟨fields, member, nonempty⟩ := there
    obtain ⟨⟨name, value⟩, inRow⟩ := List.exists_mem_of_ne_nil _ nonempty
    have named : name ∈ list.fieldNames :=
      List.mem_flatMap.mpr ⟨fields, member, List.mem_map.mpr ⟨_, inRow, rfl⟩⟩
    intro empty
    have stored := list.lookup_transposed name
    rw [if_pos named, empty] at stored
    cases stored
  · intro column member
    obtain ⟨name, _, rfl⟩ := List.mem_map.mp (Keyed.mem_of_mem_ofPairs member)
    exact ⟨_, rfl, list.length_cellsOf name⟩

/-- Both layouts show the same cells. -/
theorem field_transposed (there : ∃ fields ∈ list.rows, fields ≠ []) (name : String) (row : Nat) :
    (Dataset.table list.transposed).field name row = (Dataset.rows list).field name row := by
  by_cases behind : list.rowCount ≤ row
  · have behindTable : (Dataset.table list.transposed).rowCount ≤ row := by
      rw [Dataset.rowCount, rowCount_transposed there]
      exact behind
    rw [Dataset.field_of_rowCount_le behindTable, Dataset.field_of_rowCount_le behind]
  · have within : row < list.rows.length := Nat.lt_of_not_le behind
    have found : list.rows[row]? = some list.rows[row] := List.getElem?_eq_getElem within
    have inside : ¬ list.transposed.rowCount ≤ row := by
      rwa [rowCount_transposed there]
    simp only [Dataset.field_eq, Dataset.storedCell, if_neg inside, lookup_transposed, found,
      Option.bind_some]
    by_cases named : name ∈ list.fieldNames
    · have cell : (list.cellsOf name)[row]? =
          some ((Keyed.lookup list.rows[row] name).getD .null) := by
        rw [cellsOf, List.getElem?_map, found, Option.map_some]
      simp only [if_pos named, cell, Option.bind_some]
      -- a cell that the row lacks is `null`, and so it is masked
      cases Keyed.lookup list.rows[row] name <;> rfl
    · have absent : Keyed.lookup list.rows[row] name = none :=
        lookup_of_not_mem_fieldNames named (List.getElem_mem within)
      simp only [if_neg named, absent, Option.bind_none]

theorem alikeFor_transposed (there : ∃ fields ∈ list.rows, fields ≠ []) (parameters : Json.Fields)
    (row : Nat) {names : List String} (asksNot : Handler.column.name ∉ names) :
    ((Dataset.table list.transposed).contextAt parameters row).AlikeFor
      ((Dataset.rows list).contextAt parameters row) names where
  field := fun name => field_transposed there name row
  metadata := fun _ => rfl
  parameters := rfl
  row := fun _ => rfl
  column := fun asked => absurd asked asksNot

end RowList

namespace Assembler

variable {builder : BuilderType} {compiled : CompiledDocument} {parameters : Json.Fields}

/-- Datasets that look the same at each of the first rows contribute the same by them. -/
theorem addRows_congr {first second : Dataset} {count : Nat}
    (alike : ∀ row < count, (first.contextAt parameters row).AlikeFor
      (second.contextAt parameters row) compiled.handlerNames) :
    addRows builder compiled first parameters count =
      addRows builder compiled second parameters count := by
  induction count with
  | zero => rfl
  | succ count ih =>
      rw [addRows_succ, addRows_succ, ih fun row before => alike row (Nat.lt_succ_of_lt before)]
      exact addRow_congr ((alike count (Nat.lt_succ_self count)).known builder.handlers) _

/-- Rows and the table that they make give the same documents and the same counts, with
either builder, unless a template asks for whole columns. -/
theorem assemble_transposed (builder : BuilderType)
    (asksNot : "column" ∉ compiled.handlerNames) {list : RowList}
    (there : ∃ fields ∈ list.rows, fields ≠ []) (parameters : Json.Fields) :
    assemble builder compiled (.table list.transposed) parameters =
      assemble builder compiled (.rows list) parameters := by
  have sameCount : (Dataset.table list.transposed).rowCount = (Dataset.rows list).rowCount :=
    RowList.rowCount_transposed there
  have sameRows : addRows builder compiled (.table list.transposed) parameters list.rowCount =
      addRows builder compiled (.rows list) parameters list.rowCount := by
    apply addRows_congr
    intro row _
    exact RowList.alikeFor_transposed there parameters row asksNot
  rw [assemble_eq, assemble_eq, sameCount]
  exact congrArg (fun outcome => (outcome.reach .finalizing).reach .done) sameRows

end Assembler

/-- Readings of which one is a list, one is masked, and some fields are not there. -/
def RowList.uneven : RowList :=
  ⟨[("_FillValue", .ofInt (-9999))],
    [[("name", .string "a"), ("station", .string "KDEN"), ("temp", .array [.ofNat 1, .null])],
      [],
      [("name", .string "b"), ("station", .string "KDEN"), ("temp", .ofInt (-9999))],
      [("name", .string "c"), ("temp", .ofNat 3)]]⟩

theorem Assembler.assemble_transposed_uneven :
    "column" ∉ CompiledDocument.readings.handlerNames ∧
      (∃ fields ∈ RowList.uneven.rows, fields ≠ []) ∧
      assemble .nestedRows .readings (.table RowList.uneven.transposed) [] =
        assemble .nestedRows .readings (.rows .uneven) [] := by
  have asksNot : "column" ∉ CompiledDocument.readings.handlerNames := by decide
  have there : ∃ fields ∈ RowList.uneven.rows, fields ≠ [] :=
    ⟨_, List.mem_cons_self, List.cons_ne_nil _ _⟩
  exact ⟨asksNot, there, assemble_transposed .nestedRows asksNot there []⟩

example : RowList.uneven.transposed.columns =
    [("name", .array [.string "a", .null, .string "b", .string "c"]),
      ("station", .array [.string "KDEN", .null, .string "KDEN", .null]),
      ("temp", .array [.array [.ofNat 1, .null], .null, .ofInt (-9999), .ofNat 3])] := rfl

end DocumentIngest
