import DocumentIngest.Assembly.Pool
import DocumentIngest.Proofs.KeyedMaps

/-!
# Builds row by row

Both builders start from nothing and add one row after another, so what holds
after any number of rows is shown by induction on that number.
-/

namespace DocumentIngest

/-- What the templates look at when a dataset is at a row. -/
def Dataset.contextAt (dataset : Dataset) (parameters : Json.Fields) (row : Nat) : RowContext :=
  ⟨dataset, row, parameters⟩

namespace BuildOutcome

/-- The outcome after the first rows, when more may follow. -/
def afterRows (addRow : BuildOutcome → Nat → BuildOutcome) (count : Nat) : BuildOutcome :=
  (List.range count).foldl addRow { state := .iteratingRows }

variable {addRow : BuildOutcome → Nat → BuildOutcome}

theorem afterRows_succ (count : Nat) :
    afterRows addRow (count + 1) = addRow (afterRows addRow count) count := by
  simp only [afterRows, List.range_succ, List.foldl_append, List.foldl_cons, List.foldl_nil]

/-- What holds at the start and is kept by the row that is next holds after any rows. -/
theorem afterRows_invariant (Holds : Nat → BuildOutcome → Prop)
    (start : Holds 0 { state := .iteratingRows })
    (step : ∀ row outcome, Holds row outcome → Holds (row + 1) (addRow outcome row))
    (count : Nat) : Holds count (afterRows addRow count) := by
  induction count with
  | zero => exact start
  | succ count ih =>
      rw [afterRows_succ]
      exact step count _ ih

end BuildOutcome

namespace Assembler

/-- What one row contributes, with either builder. -/
def addRow (builder : BuilderType) (compiled : CompiledDocument) (context : RowContext)
    (outcome : BuildOutcome) : BuildOutcome :=
  match builder with
  | .rowPerDocument => RowPerDocument.addRow compiled context outcome
  | .nestedRows => NestedRows.addRow compiled context outcome

/-- What the first rows of a dataset contribute. -/
def addRows (builder : BuilderType) (compiled : CompiledDocument) (dataset : Dataset)
    (parameters : Json.Fields) (count : Nat) : BuildOutcome :=
  .afterRows (fun outcome row => addRow builder compiled (dataset.contextAt parameters row) outcome)
    count

variable {builder : BuilderType} {compiled : CompiledDocument} {dataset : Dataset}
  {parameters : Json.Fields}

theorem addRows_succ (count : Nat) :
    addRows builder compiled dataset parameters (count + 1) =
      addRow builder compiled (dataset.contextAt parameters count)
        (addRows builder compiled dataset parameters count) :=
  BuildOutcome.afterRows_succ count

theorem assemble_eq :
    assemble builder compiled dataset parameters =
      ((addRows builder compiled dataset parameters dataset.rowCount).reach .finalizing).reach
        .done := by
  cases builder <;> rfl

end Assembler

end DocumentIngest
