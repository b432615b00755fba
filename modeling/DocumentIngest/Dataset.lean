import DocumentIngest.Json

/-!
# Datasets

A dataset is read row by row and field by field.  A table keeps one array, or
one constant, for each field; a list of rows keeps one object for each row.
Both hide masked cells: `null`, the fill value that the metadata name, and the
text "nan" in any letter case.
-/

namespace DocumentIngest

/-- A columnar dataset. -/
structure Table where
  metadata : Json.Fields
  columns : Json.Fields
deriving DecidableEq, Repr

/-- A dataset of row objects. -/
structure RowList where
  metadata : Json.Fields
  rows : List Json.Fields
deriving DecidableEq, Repr

/-- A decoded dataset in either layout. -/
inductive Dataset where
  | table (columns : Table)
  | rows (list : RowList)
deriving DecidableEq, Repr

namespace Dataset

/-- The fill value that metadata name, under the first of its names that holds a
number. -/
def fillValue? (metadata : Json.Fields) : Option Binary64 :=
  ["_FillValue", "missing_value"].findSome? fun name =>
    (Keyed.lookup metadata name).bind Json.asBinary64?

/-- Whether a number is the fill value. -/
def isFill (fill : Option Binary64) (value : Number) : Bool :=
  match fill with
  | none => false
  | some fill => Binary64.eq value.toBinary64 fill

/-- Whether a cell counts as absent. -/
def isMasked (fill : Option Binary64) : Json → Bool
  | .null => true
  | .number value => isFill fill value
  | .string text => text.toList.map Char.toLower == ['n', 'a', 'n']
  | _ => false

/-- A cell unless it is masked. -/
def unmask (fill : Option Binary64) (cell : Json) : Option Json :=
  if isMasked fill cell then none else some cell

end Dataset

namespace Table

/-- The length of the longest array among columns, if there is an array. -/
def longestColumn (columns : Json.Fields) : Option Nat :=
  columns.foldl
    (fun longest column =>
      match column.2 with
      | .array cells => some (max (longest.getD 0) cells.length)
      | _ => longest)
    none

/-- The number of rows: that of the longest array; constants alone make one row. -/
def rowCount (table : Table) : Nat :=
  match longestColumn table.columns with
  | some length => length
  | none => if table.columns.isEmpty then 0 else 1

def fill (table : Table) : Option Binary64 :=
  Dataset.fillValue? table.metadata

/-- The value of a field at a row; constants are the same at every row. -/
def field (table : Table) (name : String) (row : Nat) : Option Json :=
  if table.rowCount ≤ row then none
  else
    match Keyed.lookup table.columns name with
    | none => none
    | some (.array cells) => cells[row]?.bind (Dataset.unmask table.fill)
    | some constant => Dataset.unmask table.fill constant

/-- The cells of a stored array, `null` where one is masked.  Constants have no
column. -/
def column (table : Table) (name : String) : Option (List Json) :=
  match Keyed.lookup table.columns name with
  | some (.array cells) =>
      some (cells.map fun cell => (Dataset.unmask table.fill cell).getD .null)
  | _ => none

end Table

namespace RowList

def rowCount (dataset : RowList) : Nat :=
  dataset.rows.length

def fill (dataset : RowList) : Option Binary64 :=
  Dataset.fillValue? dataset.metadata

/-- The value of a field at a row. -/
def field (dataset : RowList) (name : String) (row : Nat) : Option Json :=
  (dataset.rows[row]?.bind fun fields => Keyed.lookup fields name).bind
    (Dataset.unmask dataset.fill)

/-- A field as one entry for each row, `null` where a row has no value; nothing
when no row has one. -/
def column (dataset : RowList) (name : String) : Option (List Json) :=
  let cells := (List.range dataset.rowCount).map fun row => (dataset.field name row).getD .null
  if cells.all Json.isNull then none else some cells

end RowList

namespace Dataset

def rowCount : Dataset → Nat
  | table columns => columns.rowCount
  | rows list => list.rowCount

/-- The value of a field at a row. -/
def field (dataset : Dataset) (name : String) (row : Nat) : Option Json :=
  match dataset with
  | table columns => columns.field name row
  | rows list => list.field name row

def metadataFields : Dataset → Json.Fields
  | table columns => columns.metadata
  | rows list => list.metadata

/-- A value of the metadata, as it stands there. -/
def metadata (dataset : Dataset) (name : String) : Option Json :=
  Keyed.lookup dataset.metadataFields name

/-- A whole field as a list. -/
def column (dataset : Dataset) (name : String) : Option (List Json) :=
  match dataset with
  | table columns => columns.column name
  | rows list => list.column name

/-- The dataset without rows. -/
def empty : Dataset :=
  rows ⟨[], []⟩

end Dataset

end DocumentIngest
