import DocumentIngest.Dataset
import DocumentIngest.Failure
import DocumentIngest.Gzip
import DocumentIngest.Path

/-!
# Decoding dataset files

The name of a file says how it is decoded: `.gz` asks for inflating first, and
what then remains of the name tells lines of rows (`.ndjson`, `.jsonl`) from a
single document.
-/

namespace DocumentIngest

/-- A dataset from its JSON parts. -/
def Table.ofJson (value : Json) : Except Failure Table :=
  match value with
  | .object fields =>
      match Keyed.lookup fields "columns" with
      | some (.object columns) =>
          .ok ⟨((Keyed.lookup fields "metadata").bind Json.asFields?).getD [], columns⟩
      | _ => .error (.plain "💀 a columnar dataset needs a 'columns' object")
  | _ => .error (.plain "💀 a columnar dataset must be a JSON object")

namespace RowList

/-- The fields of every row; `index` is the number of the first one. -/
def fieldsOfRows (index : Nat) : List Json → Except Failure (List Json.Fields)
  | [] => .ok []
  | .object fields :: rest => (fieldsOfRows (index + 1) rest).map (fields :: ·)
  | _ :: _ => .error (.plain s!"💀 row {index} is not a JSON object")

/-- A list of rows, each of which must be an object. -/
def ofValues (metadata : Json.Fields) (rows : List Json) : Except Failure RowList :=
  (fieldsOfRows 0 rows).map fun rows => ⟨metadata, rows⟩

end RowList

namespace Dataset

/-- The dataset that a JSON value describes. -/
def ofJson (value : Json) : Except Failure Dataset :=
  match value with
  | .array items => (RowList.ofValues [] items).map rows
  | .object fields =>
      if Keyed.hasKey fields "columns" then (Table.ofJson value).map table
      else
        match Keyed.lookup fields "rows" with
        | some (.array items) =>
            (RowList.ofValues (((Keyed.lookup fields "metadata").bind Json.asFields?).getD [])
              items).map rows
        | _ => .error (.plain "💀 expected a 'columns' object or a 'rows' array")
  | _ => .error (.plain "💀 a dataset must be a JSON object or array")

/-- The dataset of a file that holds one JSON value. -/
def ofDocument (bytes : List UInt8) : Except Failure Dataset :=
  match Json.readBytes bytes with
  | .ok value => ofJson value
  | .error fault => .error (.of (.json fault))

/-- Cuts bytes at every line feed. -/
def linesOf : List UInt8 → List (List UInt8)
  | [] => [[]]
  | byte :: rest =>
      if byte = 10 then [] :: linesOf rest
      else
        match linesOf rest with
        | [] => [[byte]]
        | line :: lines => (byte :: line) :: lines

/-- A line without one carriage return at its end. -/
def withoutReturn (line : List UInt8) : List UInt8 :=
  if line.getLast? = some 13 then line.dropLast else line

/-- The white space of a line that counts as empty. -/
def isLineBlank (byte : UInt8) : Bool :=
  byte == 32 || byte == 9 || byte == 10 || byte == 12 || byte == 13

/-- The values of the lines that are not empty; `number` is that of the first
line. -/
def valuesOfLines (number : Nat) : List (List UInt8) → Except Failure (List Json)
  | [] => .ok []
  | line :: rest =>
      let line := withoutReturn line
      if line.all isLineBlank then valuesOfLines (number + 1) rest
      else
        match Json.readBytes line with
        | .error fault =>
            .error (.during s!"💀 line {number} is not valid JSON" (.of (.json fault)))
        | .ok value => (valuesOfLines (number + 1) rest).map (value :: ·)

/-- The dataset of a file that holds one row a line. -/
def ofLines (bytes : List UInt8) : Except Failure Dataset := do
  let values ← valuesOfLines 1 (linesOf bytes)
  (RowList.ofValues [] values).map rows

/-- Decodes the content of a file. -/
def decode (path : String) (content : List UInt8) : Except Failure Dataset := do
  let name := ((Path.fileName? path).getD "").toList
  let (content, name) ←
    if ".gz".toList.isSuffixOf name then
      match Gzip.inflate? content with
      | some inflated => .ok (inflated, name.take (name.length - 3))
      | none =>
          .error (.during ("💀 '" ++ path ++ "' claims to be gzip. It lied.") (.of .system))
    else .ok (content, name)
  if ".ndjson".toList.isSuffixOf name || ".jsonl".toList.isSuffixOf name then
    attempting ("💀 bad NDJSON in '" ++ path ++ "'") (ofLines content)
  else attempting ("💀 bad JSON dataset '" ++ path ++ "'") (ofDocument content)

/-- Decodes the file at a path, given its content if it can be read. -/
def ofFile (path : String) (content : Option (List UInt8)) : Except Failure Dataset :=
  match content with
  | some content => decode path content
  | none =>
      .error (.during
        ("💀 Could not read dataset '" ++ path ++
          "'. The file was in the listing a moment ago. Files are like that sometimes.")
        (.of .system))

end Dataset

end DocumentIngest
