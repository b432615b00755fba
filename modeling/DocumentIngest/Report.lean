import DocumentIngest.Run

/-!
# The report of a run

What is printed when a run is over: a table of its counts, drawn with lines.
-/

namespace DocumentIngest

namespace Report

/-- Puts a comma before every three digits from the right. -/
def grouped : List Char → List Char
  | [] => []
  | digit :: rest =>
      if rest.length % 3 = 0 ∧ rest ≠ [] then digit :: ',' :: grouped rest
      else digit :: grouped rest

/-- A number with commas. -/
def number (value : Nat) : String :=
  String.ofList (grouped (toString value).toList)

/-- At least two digits. -/
def twoDigits (value : Nat) : String :=
  if value < 10 then "0" ++ toString value else toString value

/-- Minutes and seconds of a duration, with hours before them if there are any. -/
def duration (milliseconds : Nat) : String :=
  let total := milliseconds / 1000
  let hours := total / 3600
  let rest := twoDigits (total % 3600 / 60) ++ ":" ++ twoDigits (total % 60)
  if hours = 0 then rest else twoDigits hours ++ ":" ++ rest

/-- The rows of the table. -/
def rows (summary : RunSummary) : List (String × String) :=
  [("items", number summary.itemsTotal),
    ("items ok", number summary.itemsOk),
    ("items failed", number summary.itemsFailed),
    ("items unacknowledged", number summary.itemsUnacknowledged),
    ("documents written", number summary.documentsWritten),
    ("partial dispatches", number summary.partialDispatches),
    ("rows ok", number summary.rowsOk),
    ("rows skipped", number summary.rowsSkipped),
    ("documents without an id", number summary.documentsFailed),
    ("workers failed", number summary.workersFailed),
    ("elapsed", duration summary.elapsedMs)]

/-- A text so many times. -/
def repeated (count : Nat) (text : String) : String :=
  String.join (List.replicate count text)

/-- A line across the table: its left end, its stroke, its crossing and its right
end.  Every cell has a blank on either side. -/
def rule (left stroke crossing right : String) (labelWidth valueWidth : Nat) : String :=
  left ++ repeated (labelWidth + 2) stroke ++ crossing ++ repeated (valueWidth + 2) stroke ++ right

/-- A row; labels stand left and values right. -/
def row (labelWidth valueWidth : Nat) (label value : String) : String :=
  "│ " ++ label ++ repeated (labelWidth - label.length) " " ++ " ┆ " ++
    repeated (valueWidth - value.length) " " ++ value ++ " │"

/-- The greatest length of some texts. -/
def widest (texts : List String) : Nat :=
  texts.foldl (fun width text => max width text.length) 0

/-- What stands above the counts. -/
def heading : String := "count"

/-- The table of a run. -/
def table (summary : RunSummary) : String :=
  let rows := rows summary
  let labelWidth := widest (rows.map Prod.fst)
  let valueWidth := widest (heading :: rows.map Prod.snd)
  let between := rule "├" "╌" "┼" "┤" labelWidth valueWidth
  "\n".intercalate
    ([rule "┌" "─" "┬" "┐" labelWidth valueWidth,
        "│ " ++ repeated labelWidth " " ++ " ┆ " ++ heading ++
          repeated (valueWidth - heading.length) " " ++ " │",
        rule "╞" "═" "╪" "╡" labelWidth valueWidth] ++
      (rows.map fun entry => row labelWidth valueWidth entry.1 entry.2).intersperse between ++
      [rule "└" "─" "┴" "┘" labelWidth valueWidth])

/-- What is printed of a run that completed. -/
def text (summary : RunSummary) : String :=
  "🏁 load job " ++ summary.loadJobId ++ "\n" ++ table summary ++ "\n"

end Report

end DocumentIngest
