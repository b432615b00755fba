import DocumentIngest.Proofs.StoredCells

/-!
# Whole columns

A whole column is meant to tell what its field tells, one entry for each row.  A list
of rows keeps to this.  A table hands out the array that it stores: a constant has no
column although it stands at every row, an array that ends early gives a column that
ends early, and an array of masked cells gives a column of `null`.
-/

namespace DocumentIngest

namespace Dataset

/-- Whether the column of a field tells what the field tells: nothing if no row has a
value, and otherwise one entry for each row, `null` where there is none. -/
structure ColumnTellsField (dataset : Dataset) (name : String) : Prop where
  eq_none_iff : dataset.column name = none ↔ ∀ row, dataset.field name row = none
  entries : ∀ cells, dataset.column name = some cells →
    cells.length = dataset.rowCount ∧
      ∀ row < dataset.rowCount, cells[row]? = some ((dataset.field name row).getD .null)

/-- Whether a field is stored in such a way that its column can tell it. -/
def FillsColumn (dataset : Dataset) (name : String) : Prop :=
  match dataset with
  | rows _ => True
  | table columns =>
      match Keyed.lookup columns.columns name with
      | none => True
      | some (.array cells) =>
          cells.length = columns.rowCount ∧ ∃ cell ∈ cells, isMasked columns.fill cell = false
      | some constant => columns.rowCount = 0 ∨ isMasked columns.fill constant = true

/-- What a field shows is never `null`. -/
theorem isNull_field (dataset : Dataset) (name : String) (row : Nat) :
    ((dataset.field name row).getD .null).isNull = (dataset.field name row).isNone := by
  rw [field_eq]
  cases dataset.storedCell name row with
  | none => rfl
  | some cell =>
      rw [Option.bind_some, isNull_unmask, unmask]
      split
      · next masked => exact masked
      · next shown => exact Bool.eq_false_iff.mpr shown

end Dataset

namespace RowList

/-- One entry for each row, `null` where the row has no value. -/
def entriesOf (list : RowList) (name : String) : List Json :=
  (List.range list.rowCount).map fun row => (list.field name row).getD .null

theorem column_eq (list : RowList) (name : String) :
    list.column name =
      if (list.entriesOf name).all Json.isNull then none else some (list.entriesOf name) := rfl

theorem all_isNull_entriesOf_iff (list : RowList) (name : String) :
    (list.entriesOf name).all Json.isNull = true ↔
      ∀ row, (Dataset.rows list).field name row = none := by
  have shown (row : Nat) : ((list.field name row).getD .null).isNull =
      ((Dataset.rows list).field name row).isNone := Dataset.isNull_field (.rows list) name row
  simp only [entriesOf, List.all_eq_true, List.mem_map, List.mem_range, forall_exists_index,
    and_imp, forall_apply_eq_imp_iff₂, shown, Option.isNone_iff_eq_none]
  constructor
  · intro within row
    by_cases behind : list.rowCount ≤ row
    · exact Dataset.field_of_rowCount_le behind name
    · exact within row (Nat.lt_of_not_le behind)
  · exact fun everywhere row _ => everywhere row

theorem columnTellsField (list : RowList) (name : String) :
    (Dataset.rows list).ColumnTellsField name := by
  have empty := all_isNull_entriesOf_iff list name
  constructor
  · rw [← empty, Dataset.column, column_eq]
    split
    · next all => exact iff_of_true rfl all
    · next some => exact iff_of_false (Option.some_ne_none _) some
  · intro cells told
    rw [Dataset.column, column_eq] at told
    split at told
    · cases told
    · cases told
      refine ⟨by rw [entriesOf, List.length_map, List.length_range]; rfl, ?_⟩
      intro row within
      have inRange : row < list.rowCount := within
      rw [entriesOf, List.getElem?_map, List.getElem?_range inRange]
      rfl

end RowList

namespace Table

variable {columns : Table} {name : String} {cells : List Json} {constant : Json}

theorem column_of_array (stored : Keyed.lookup columns.columns name = some (.array cells)) :
    columns.column name =
      some (cells.map fun cell => (Dataset.unmask columns.fill cell).getD .null) := by
  rw [column, stored]

theorem column_of_constant (isConstant : constant.asItems? = none)
    (stored : Keyed.lookup columns.columns name = some constant) : columns.column name = none := by
  rw [column, stored]
  cases constant with
  | array cells => cases isConstant
  | _ => rfl

theorem exists_array_of_column {told : List Json} (found : columns.column name = some told) :
    ∃ cells, Keyed.lookup columns.columns name = some (.array cells) := by
  rw [column] at found
  split at found
  · next cells stored => exact ⟨cells, stored⟩
  · cases found

/-- An array shows a cell wherever it has one: it does not go on behind the last row. -/
theorem field_of_array (stored : Keyed.lookup columns.columns name = some (.array cells))
    (row : Nat) : columns.field name row = cells[row]?.bind (Dataset.unmask columns.fill) := by
  rw [field, stored]
  split
  · next behind =>
      have ended : cells.length ≤ row := Nat.le_trans (length_le_rowCount stored) behind
      rw [List.getElem?_eq_none ended, Option.bind_none]
  · rfl

theorem field_of_constant (isConstant : constant.asItems? = none)
    (stored : Keyed.lookup columns.columns name = some constant) (row : Nat) :
    columns.field name row =
      if columns.rowCount ≤ row then none else Dataset.unmask columns.fill constant := by
  rw [field, stored]
  cases constant with
  | array cells => cases isConstant
  | _ => rfl

theorem getElem?_column_of_array
    (stored : Keyed.lookup columns.columns name = some (.array cells)) {row : Nat}
    (within : row < cells.length) :
    (cells.map fun cell => (Dataset.unmask columns.fill cell).getD .null)[row]? =
      some ((columns.field name row).getD .null) := by
  rw [field_of_array stored, List.getElem?_map, List.getElem?_eq_getElem within, Option.map_some,
    Option.bind_some]

theorem forall_field_of_array_iff
    (stored : Keyed.lookup columns.columns name = some (.array cells)) :
    (∀ row, columns.field name row = none) ↔
      ∀ cell ∈ cells, Dataset.isMasked columns.fill cell = true := by
  simp only [field_of_array stored, Option.bind_eq_none_iff, Dataset.unmask_eq_none_iff]
  constructor
  · intro masked cell member
    obtain ⟨row, found⟩ := List.mem_iff_getElem?.mp member
    exact masked row cell found
  · intro masked row cell found
    exact masked cell (List.mem_of_getElem? found)

theorem forall_field_of_constant_iff (isConstant : constant.asItems? = none)
    (stored : Keyed.lookup columns.columns name = some constant) :
    (∀ row, columns.field name row = none) ↔
      columns.rowCount = 0 ∨ Dataset.isMasked columns.fill constant = true := by
  simp only [field_of_constant isConstant stored, ite_eq_left_iff, not_le,
    Dataset.unmask_eq_none_iff]
  constructor
  · intro masked
    by_cases none : columns.rowCount = 0
    · exact .inl none
    · exact .inr (masked 0 (Nat.pos_of_ne_zero none))
  · rintro (none | masked) row within
    · omega
    · exact masked

theorem columnTellsField_of_array
    (stored : Keyed.lookup columns.columns name = some (.array cells)) :
    (Dataset.table columns).ColumnTellsField name ↔
      cells.length = columns.rowCount ∧
        ∃ cell ∈ cells, Dataset.isMasked columns.fill cell = false := by
  have told : (Dataset.table columns).column name = some _ := column_of_array stored
  have shown : (∀ row, (Dataset.table columns).field name row = none) ↔ _ :=
    forall_field_of_array_iff stored
  constructor
  · intro tells
    have full := (tells.entries _ told).1
    rw [List.length_map] at full
    refine ⟨full, ?_⟩
    by_contra masked
    push Not at masked
    have silent := tells.eq_none_iff.mpr (shown.mpr fun cell member => by
      simpa using masked cell member)
    rw [told] at silent
    cases silent
  · rintro ⟨full, cell, member, visible⟩
    constructor
    · rw [told, shown]
      refine iff_of_false (Option.some_ne_none _) fun masked => ?_
      rw [masked cell member] at visible
      cases visible
    · intro entries found
      rw [told, Option.some.injEq] at found
      subst entries
      refine ⟨by rw [List.length_map, full]; rfl, ?_⟩
      intro row within
      have inArray : row < cells.length := full ▸ within
      exact getElem?_column_of_array stored inArray

theorem columnTellsField_of_constant (isConstant : constant.asItems? = none)
    (stored : Keyed.lookup columns.columns name = some constant) :
    (Dataset.table columns).ColumnTellsField name ↔
      columns.rowCount = 0 ∨ Dataset.isMasked columns.fill constant = true := by
  have untold : (Dataset.table columns).column name = none := column_of_constant isConstant stored
  rw [← forall_field_of_constant_iff isConstant stored]
  constructor
  · exact fun tells => tells.eq_none_iff.mp untold
  · intro hidden
    refine ⟨iff_of_true untold hidden, ?_⟩
    intro entries found
    rw [untold] at found
    cases found

theorem columnTellsField_of_absent (absent : Keyed.lookup columns.columns name = none) :
    (Dataset.table columns).ColumnTellsField name := by
  have untold : (Dataset.table columns).column name = none := by
    rw [Dataset.column, column, absent]
  have hidden (row : Nat) : (Dataset.table columns).field name row = none := by
    rw [Dataset.field, field, absent]
    exact ite_self none
  refine ⟨iff_of_true untold hidden, ?_⟩
  intro entries found
  rw [untold] at found
  cases found

theorem columnTellsField_iff (columns : Table) (name : String) :
    (Dataset.table columns).ColumnTellsField name ↔
      (Dataset.table columns).FillsColumn name := by
  cases stored : Keyed.lookup columns.columns name with
  | none => simp only [Dataset.FillsColumn, stored, columnTellsField_of_absent stored]
  | some value =>
      cases value with
      | array cells => simp only [Dataset.FillsColumn, stored, columnTellsField_of_array stored]
      | _ => simp only [Dataset.FillsColumn, stored, columnTellsField_of_constant rfl stored]

end Table

/-- What a column tells of a row is what the field tells there, as far as the column goes.
It tells the whole field in a list of rows, and in a table if the field is an array that
reaches the last row and is not masked throughout, or shows nothing at all. -/
theorem Dataset.column_tells (dataset : Dataset) (name : String) :
    (∀ told, dataset.column name = some told →
      told.length ≤ dataset.rowCount ∧
        ∀ row < told.length, told[row]? = some ((dataset.field name row).getD .null)) ∧
      (dataset.ColumnTellsField name ↔ dataset.FillsColumn name) := by
  cases dataset with
  | rows list =>
      have tells := list.columnTellsField name
      refine ⟨?_, iff_of_true tells trivial⟩
      intro told found
      obtain ⟨full, entries⟩ := tells.entries told found
      exact ⟨Nat.le_of_eq full, full ▸ entries⟩
  | table columns =>
      refine ⟨?_, columns.columnTellsField_iff name⟩
      intro told found
      obtain ⟨cells, stored⟩ := Table.exists_array_of_column found
      have toldOfArray : columns.column name = some told := found
      rw [Table.column_of_array stored, Option.some.injEq] at toldOfArray
      subst told
      rw [List.length_map]
      exact ⟨Table.length_le_rowCount stored, fun row => Table.getElem?_column_of_array stored⟩

/-- Two readings of one station, one of them with a depth, none with a dew point. -/
def Table.sparse : Table where
  metadata := []
  columns :=
    [("depth", .array [.ofNat 7]), ("dewpoint", .array [.null, .null]),
      ("station", .string "KDEN"), ("temp", .array [.ofNat 1, .ofNat 2])]

/-- The station stands at both rows, and yet it has no column. -/
theorem Dataset.not_columnTellsField :
    ¬∀ (dataset : Dataset) (name : String), dataset.ColumnTellsField name := by
  intro tells
  have hidden := (tells (.table .sparse) "station").eq_none_iff.mp rfl 0
  exact absurd hidden (by decide)

example : (Dataset.table .sparse).column "depth" = some [.ofNat 7] ∧
    (Dataset.table .sparse).column "dewpoint" = some [.null, .null] := by decide

end DocumentIngest
