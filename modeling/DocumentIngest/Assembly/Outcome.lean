import DocumentIngest.WorkItem

/-!
# Build outcomes

What building the rows of a dataset gives: documents by id, counts of what
became of the rows, and how far the build got.
-/

namespace DocumentIngest

/-- Where the build of a work item got to. -/
inductive BuildState where
  | init
  | iteratingRows
  | finalizing
  | done
  /-- Nothing could be built. -/
  | failed
deriving DecidableEq, Repr, Inhabited

/-- What became of rows. -/
structure BuildCounts where
  rowsOk : Nat := 0
  rowsSkipped : Nat := 0
  /-- Rows, and elements of id lists, that had no document id. -/
  documentsFailed : Nat := 0
deriving DecidableEq, Repr, Inhabited

/-- The documents built from rows, and what became of the rows. -/
structure BuildOutcome where
  documents : DocumentMap := []
  counts : BuildCounts := {}
  state : BuildState := .init
deriving DecidableEq, Repr, Inhabited

namespace BuildOutcome

/-- Counts a row that contributed. -/
def countOk (outcome : BuildOutcome) : BuildOutcome :=
  { outcome with counts := { outcome.counts with rowsOk := outcome.counts.rowsOk + 1 } }

/-- Counts a row that was left out. -/
def countSkipped (outcome : BuildOutcome) : BuildOutcome :=
  { outcome with counts := { outcome.counts with rowsSkipped := outcome.counts.rowsSkipped + 1 } }

/-- Counts a row or element that had no document id. -/
def countWithoutId (outcome : BuildOutcome) : BuildOutcome :=
  { outcome with
    counts := { outcome.counts with documentsFailed := outcome.counts.documentsFailed + 1 } }

/-- Notes how far a build got. -/
def reach (outcome : BuildOutcome) (state : BuildState) : BuildOutcome :=
  { outcome with state }

/-- Adds the rows of a dataset one after another, from the first to the last. -/
def overRows (count : Nat) (addRow : BuildOutcome → Nat → BuildOutcome) : BuildOutcome :=
  let started : BuildOutcome := { state := .iteratingRows }
  (((List.range count).foldl addRow started).reach .finalizing).reach .done

/-- Puts a document under its id, in the place of one that was there. -/
def put (outcome : BuildOutcome) (id : String) (document : Json) : BuildOutcome :=
  { outcome with documents := Keyed.insert outcome.documents id document }

end BuildOutcome

namespace Json

/-- Sets the id of a document body. -/
def withId (body : Json) (id : String) : Json :=
  match body with
  | object fields => object (Keyed.insert fields "id" (string id))
  | other => other

end Json

end DocumentIngest
