import DocumentIngest.Dataset
import DocumentIngest.Failure

/-!
# Stored records as datasets

A stored document can be read as a dataset again: one of its fields holds the
rows, as a list or by name, and what else stands at its top level without
structure is its metadata.
-/

namespace DocumentIngest

namespace StoredRecord

/-- The field that holds the rows, as the parameters of an ingest document say. -/
def rowsField (parameters : Json.Fields) : String :=
  ((Keyed.lookup parameters "rows_field").bind Json.asText?).getD "data"

/-- The rows of a list; `index` is the number of the first one. -/
def rowsOfList (field : String) (index : Nat) : List Json → Except Failure (List Json.Fields)
  | [] => .ok []
  | .object fields :: rest => (rowsOfList field (index + 1) rest).map (fields :: ·)
  | _ :: _ => .error (.plain s!"💀 '{field}[{index}]' is not an object")

/-- A row that is known by a name, which it carries unless it has one itself. -/
def named (name : String) (row : Json.Fields) : Json.Fields :=
  if Keyed.hasKey row "name" then row else Keyed.insert row "name" (.string name)

/-- The rows of an object, in the order of their names. -/
def rowsByName (field : String) : List (String × Json) → Except Failure (List Json.Fields)
  | [] => .ok []
  | (name, .object row) :: rest => (rowsByName field rest).map (named name row :: ·)
  | (name, _) :: _ => .error (.plain s!"💀 '{field}.{name}' is not an object")

/-- Whether a value has no structure. -/
def isPlain : Json → Bool
  | .object _ => false
  | .array _ => false
  | _ => true

/-- The dataset that a stored document holds in one of its fields. -/
def dataset (record : Json) (field : String) : Except Failure Dataset :=
  match record with
  | .object fields => do
      let rows ←
        match Keyed.lookup fields field with
        | some (.array rows) => rowsOfList field 0 rows
        | some (.object rows) => rowsByName field rows
        | some _ =>
            .error (.plain ("💀 '" ++ field ++ "' must be an array or an object of rows"))
        | none => .error (.plain ("💀 the stored record has no '" ++ field ++ "' field"))
      .ok (.rows ⟨(Keyed.erase fields field).filter fun entry => isPlain entry.2, rows⟩)
  | _ => .error (.plain "💀 a stored record must be a JSON object")

end StoredRecord

end DocumentIngest
