import DocumentIngest.Dataset
import DocumentIngest.Proofs.KeyedMaps

/-!
# Cells of a dataset

What a field holds at a row is the cell that is stored there, unless that cell is
masked.  A table has as many rows as its longest array has cells, so no array goes
on behind the last row.
-/

namespace DocumentIngest

namespace Dataset

variable {fill : Option Binary64} {cell : Json}

theorem unmask_eq_none_iff : unmask fill cell = none ↔ isMasked fill cell = true := by
  rw [unmask]
  split
  · next masked => exact iff_of_true rfl masked
  · next shown => exact iff_of_false (Option.some_ne_none _) shown

theorem unmask_eq_some_iff {value : Json} :
    unmask fill cell = some value ↔ isMasked fill cell = false ∧ cell = value := by
  rw [unmask]
  split
  · next masked => simp [masked]
  · next shown => simp [shown]

/-- What is left of a cell is `null` only if the cell is masked. -/
theorem isNull_unmask : ((unmask fill cell).getD .null).isNull = isMasked fill cell := by
  rw [unmask]
  split
  · next masked => rw [masked]; rfl
  · next shown =>
      cases cell with
      | null => exact absurd rfl shown
      | _ => exact (Bool.eq_false_iff.mpr shown).symm

end Dataset

namespace Table

/-- The lengths of the arrays among columns. -/
def arrayLengths (columns : Json.Fields) : List Nat :=
  columns.filterMap fun column => column.2.asItems?.map List.length

theorem longestColumn_eq_max? (columns : Json.Fields) :
    longestColumn columns = (arrayLengths columns).max? := by
  rw [longestColumn]
  change columns.foldl _ none = ((none : Option Nat).toList ++ arrayLengths columns).max?
  generalize (none : Option Nat) = longest
  induction columns generalizing longest with
  | nil => cases longest <;> rfl
  | cons column rest ih =>
      obtain ⟨name, value⟩ := column
      rw [List.foldl_cons, ih]
      cases value with
      | array cells =>
          have lengths : arrayLengths ((name, .array cells) :: rest) =
              cells.length :: arrayLengths rest := rfl
          rw [lengths]
          cases longest with
          | none => simp
          | some length => rfl
      | _ => rfl

theorem mem_arrayLengths_iff {columns : Json.Fields} {length : Nat} :
    length ∈ arrayLengths columns ↔
      ∃ name cells, (name, .array cells) ∈ columns ∧ cells.length = length := by
  rw [arrayLengths, List.mem_filterMap]
  constructor
  · rintro ⟨⟨name, value⟩, member, long⟩
    cases value with
    | array cells => exact ⟨name, cells, member, Option.some.inj long⟩
    | _ => cases long
  · rintro ⟨name, cells, member, long⟩
    exact ⟨_, member, congrArg some long⟩

variable {table : Table} {name : String} {cells : List Json}

/-- No array goes on behind the last row. -/
theorem length_le_rowCount (stored : Keyed.lookup table.columns name = some (.array cells)) :
    cells.length ≤ table.rowCount := by
  have member : cells.length ∈ arrayLengths table.columns :=
    mem_arrayLengths_iff.mpr ⟨name, cells, Keyed.mem_of_lookup stored, rfl⟩
  cases longest : longestColumn table.columns with
  | none =>
      rw [longestColumn_eq_max?, List.max?_eq_none_iff] at longest
      rw [longest] at member
      cases member
  | some length =>
      rw [rowCount, longest]
      rw [longestColumn_eq_max?, List.max?_eq_some_iff] at longest
      exact longest.2 _ member

theorem rowCount_of_forall {length : Nat} (nonempty : table.columns ≠ [])
    (all : ∀ column ∈ table.columns, ∃ cells, column.2 = .array cells ∧ cells.length = length) :
    table.rowCount = length := by
  have longest : longestColumn table.columns = some length := by
    rw [longestColumn_eq_max?, List.max?_eq_some_iff]
    constructor
    · obtain ⟨column, member⟩ := List.exists_mem_of_ne_nil _ nonempty
      obtain ⟨cells, isArray, long⟩ := all column member
      exact mem_arrayLengths_iff.mpr ⟨column.1, cells, isArray ▸ member, long⟩
    · intro other member
      obtain ⟨name, cells, stored, rfl⟩ := mem_arrayLengths_iff.mp member
      obtain ⟨_, isArray, long⟩ := all _ stored
      cases isArray
      exact Nat.le_of_eq long
  rw [rowCount, longest]

end Table

namespace Dataset

/-- The cell that is stored for a field at a row, masked or not. -/
def storedCell (dataset : Dataset) (name : String) (row : Nat) : Option Json :=
  match dataset with
  | table columns =>
      if columns.rowCount ≤ row then none
      else
        match Keyed.lookup columns.columns name with
        | some (.array cells) => cells[row]?
        | other => other
  | rows list => list.rows[row]?.bind fun fields => Keyed.lookup fields name

def fill (dataset : Dataset) : Option Binary64 :=
  fillValue? dataset.metadataFields

theorem field_eq (dataset : Dataset) (name : String) (row : Nat) :
    dataset.field name row = (dataset.storedCell name row).bind (unmask dataset.fill) := by
  cases dataset with
  | rows list => rfl
  | table columns =>
      rw [field, Table.field, storedCell]
      split
      · rfl
      · cases Keyed.lookup columns.columns name with
        | none => rfl
        | some value => cases value <;> rfl

theorem field_of_rowCount_le {dataset : Dataset} {row : Nat} (behind : dataset.rowCount ≤ row)
    (name : String) : dataset.field name row = none := by
  cases dataset with
  | table columns => exact if_pos behind
  | rows list =>
      rw [field, RowList.field, List.getElem?_eq_none behind]
      rfl

end Dataset

end DocumentIngest
