import DocumentIngest.Proofs.PartialFailures
import Mathlib.Algebra.BigOperators.Group.List.Basic
import Mathlib.Algebra.GroupWithZero.Nat

/-!
# Every row is counted

A row bumps one of the three counts and no other, whichever way its builder leaves it.
Only the elements of an id list count on their own: those without a key text are
failed documents beside the row that they belong to, which counts as well.
-/

namespace DocumentIngest

namespace BuildCounts

/-- How often anything was counted. -/
def total (counts : BuildCounts) : Nat :=
  counts.rowsOk + counts.rowsSkipped + counts.documentsFailed

end BuildCounts

namespace BuildOutcome

variable (outcome : BuildOutcome)

@[simp]
theorem rowsOk_countOk : outcome.countOk.counts.rowsOk = outcome.counts.rowsOk + 1 := rfl

@[simp]
theorem rowsOk_countSkipped : outcome.countSkipped.counts.rowsOk = outcome.counts.rowsOk := rfl

@[simp]
theorem rowsOk_countWithoutId :
    outcome.countWithoutId.counts.rowsOk = outcome.counts.rowsOk := rfl

@[simp]
theorem counts_put (id : String) (document : Json) :
    (outcome.put id document).counts = outcome.counts := rfl

@[simp]
theorem total_countOk : outcome.countOk.counts.total = outcome.counts.total + 1 := by
  simp only [countOk, BuildCounts.total]
  omega

@[simp]
theorem total_countSkipped :
    outcome.countSkipped.counts.total = outcome.counts.total + 1 := by
  simp only [countSkipped, BuildCounts.total]
  omega

@[simp]
theorem total_countWithoutId :
    outcome.countWithoutId.counts.total = outcome.counts.total + 1 := by
  simp only [countWithoutId, BuildCounts.total]
  omega

end BuildOutcome

namespace RowPerDocument

/-- The elements that a row is shared out among, none if its id is no list. -/
def elementsOf (compiled : CompiledDocument) (context : RowContext) : List Json :=
  match compiled.id.resolve BuilderType.rowPerDocument.handlers context false with
  | .ok (.list elements) => elements
  | _ => []

/-- How many elements of an id list have no key text. -/
def unkeyed (elements : List Json) : Nat :=
  elements.countP fun element => (Resolved.ofJson element).asKey?.isNone

/-- An id list counts its elements without a key text, and nothing else. -/
theorem counts_addElements (body : Json) (width index : Nat) (outcome : BuildOutcome)
    (elements : List Json) :
    (addElements body width index outcome elements).counts =
      { outcome.counts with
        documentsFailed := outcome.counts.documentsFailed + unkeyed elements } := by
  induction elements generalizing index outcome with
  | nil => rfl
  | cons element rest ih =>
      rw [addElements, ih, unkeyed, unkeyed, List.countP_cons]
      cases found : (Resolved.ofJson element).asKey? with
      | some key => rfl
      | none =>
          simp only [BuildOutcome.countWithoutId, Option.isNone_none, if_true,
            Nat.add_assoc, Nat.add_comm 1]

theorem total_addElements (body : Json) (width index : Nat) (outcome : BuildOutcome)
    (elements : List Json) :
    (addElements body width index outcome elements).counts.total =
      outcome.counts.total + unkeyed elements := by
  rw [counts_addElements]
  simp only [BuildCounts.total]
  omega

/-- A row adds one to the counts, and if it is counted as a good one, what its id list
has in elements without a key text. -/
theorem total_addRow (compiled : CompiledDocument) (context : RowContext)
    (outcome : BuildOutcome) :
    (addRow compiled context outcome).counts.total =
      outcome.counts.total + 1 +
        if (addRow compiled context outcome).counts.rowsOk = outcome.counts.rowsOk + 1 then
          unkeyed (elementsOf compiled context)
        else 0 := by
  cases resolved : compiled.id.resolve BuilderType.rowPerDocument.handlers context false with
  | error fault => simp [addRow, resolved]
  | ok id =>
  cases bodyResolved : compiled.body.resolve BuilderType.rowPerDocument.handlers context
      compiled.optionalFields with
  | error fault => cases id <;> simp [addRow, resolved, bodyResolved]
  | ok body =>
  -- only a list has anything to count beside the row itself
  cases id with
  | missing => simp [addRow, resolved]
  | scalar value =>
      cases found : (Resolved.scalar value).asKey? <;>
        simp [addRow, resolved, bodyResolved, found, elementsOf, unkeyed]
  | list elements =>
      have shared := total_addElements (body.getD (.object [])) elements.length 0 outcome elements
      have counted := rowsOk_addElements (body.getD (.object [])) elements.length 0 outcome elements
      simp only [addRow, resolved, bodyResolved, elementsOf, BuildOutcome.total_countOk,
        BuildOutcome.rowsOk_countOk, shared, counted, if_true]
      omega

end RowPerDocument

namespace NestedRows

/-- Whether so many rows were counted once each, and no document was started by a row
that is not among the good ones. -/
structure IsTallied (rows : Nat) (outcome : BuildOutcome) : Prop where
  carries : outcome.documents.All Json.Carries
  total : outcome.counts.total = rows
  documents : outcome.documents.length ≤ outcome.counts.rowsOk

theorem counts_putEntry (outcome : BuildOutcome) (id : String) (fields : Json.Fields)
    (entry : Option (String × Json)) :
    (putEntry outcome id (.object fields) entry).counts = outcome.countOk.counts := by
  rcases entry with _ | ⟨key, value⟩ <;> rfl

theorem IsTallied.addRow {compiled : CompiledDocument} (ensures : compiled.Ensures Json.Carries)
    (context : RowContext) {rows : Nat} {outcome : BuildOutcome}
    (tallied : IsTallied rows outcome) :
    IsTallied (rows + 1) (addRow compiled context outcome) := by
  have carries := all_addRow ensures context tallied.carries
  have withoutId : IsTallied (rows + 1) outcome.countWithoutId :=
    ⟨tallied.carries, by simp [tallied.total], tallied.documents⟩
  have skipped : IsTallied (rows + 1) outcome.countSkipped :=
    ⟨tallied.carries, by simp [tallied.total], tallied.documents⟩
  rw [NestedRows.addRow] at carries ⊢
  split
  · exact withoutId
  next named resolved =>
  split
  · exact withoutId
  next id found =>
  split
  · exact skipped
  next entry entered =>
  split
  · exact skipped
  next document started =>
  -- what is started or found is an object, so the exit that counts nothing is never taken
  obtain ⟨fields, rfl, _⟩ := holds_documentFor ensures tallied.carries resolved found started
  simp only [resolved, found, entered, started] at carries
  have atMostOne := Keyed.length_insert_le outcome.documents id (withEntry (.object fields) entry)
  refine ⟨carries, ?_, ?_⟩
  · rw [counts_putEntry, BuildOutcome.total_countOk, tallied.total]
  · rw [counts_putEntry, documents_putEntry, BuildOutcome.rowsOk_countOk]
    exact atMostOne.trans (Nat.succ_le_succ tallied.documents)

end NestedRows

namespace Assembler

variable {compiled : CompiledDocument}

instance (builder : BuilderType) (compiled : CompiledDocument) (dataset : Dataset)
    (parameters : Json.Fields) (row : Nat) :
    Decidable (Counts builder compiled dataset parameters row) :=
  inferInstanceAs (Decidable (_ = _))

/-- How many elements of id lists have no key text in the rows that a build counts as
good ones. -/
def unkeyedElements (compiled : CompiledDocument) (dataset : Dataset)
    (parameters : Json.Fields) (rows : Nat) : Nat :=
  ((List.range rows).map fun row =>
    if Counts .rowPerDocument compiled dataset parameters row then
      RowPerDocument.unkeyed
        (RowPerDocument.elementsOf compiled (dataset.contextAt parameters row))
    else 0).sum

theorem isTallied_addRows (ensures : compiled.Ensures Json.Carries) (dataset : Dataset)
    (parameters : Json.Fields) (rows : Nat) :
    NestedRows.IsTallied rows (addRows .nestedRows compiled dataset parameters rows) :=
  BuildOutcome.afterRows_invariant NestedRows.IsTallied
    ⟨DocumentMap.all_nil, rfl, Nat.le_refl 0⟩ (fun _ _ tallied => tallied.addRow ensures _) rows

theorem total_addRows (compiled : CompiledDocument) (dataset : Dataset)
    (parameters : Json.Fields) (rows : Nat) :
    (addRows .rowPerDocument compiled dataset parameters rows).counts.total =
      rows + unkeyedElements compiled dataset parameters rows := by
  induction rows with
  | zero => rfl
  | succ rows ih =>
      have added := RowPerDocument.total_addRow compiled (dataset.contextAt parameters rows)
        (addRows .rowPerDocument compiled dataset parameters rows)
      rw [addRows_succ, unkeyedElements, List.range_succ, List.map_append, List.sum_append,
        ← unkeyedElements, List.map_singleton, List.sum_singleton]
      simp only [Counts, addRows_succ, addRow]
      rw [added, ih]
      omega

/-- No row is lost from the counts.  Nested rows count each row once, and have no more
documents than good rows.  With a document a row, each row counts once as well, and
beside the good rows their elements without a key text count as failed documents. -/
theorem counts_every_row {document : IngestDocument}
    (compiles : CompiledDocument.compile document = .ok compiled) (dataset : Dataset)
    (parameters : Json.Fields) :
    (assemble .nestedRows compiled dataset parameters).counts.total = dataset.rowCount ∧
      (assemble .nestedRows compiled dataset parameters).documents.length ≤
        (assemble .nestedRows compiled dataset parameters).counts.rowsOk ∧
      (assemble .rowPerDocument compiled dataset parameters).counts.total =
        dataset.rowCount +
          unkeyedElements compiled dataset parameters dataset.rowCount := by
  have tallied := isTallied_addRows (CompiledDocument.ensures_carries compiles) dataset parameters
    dataset.rowCount
  simp only [assemble_eq]
  exact ⟨tallied.total, tallied.documents, total_addRows compiled dataset parameters _⟩

end Assembler

/-- A row whose station is a list of one name and two things that are no names, and a row
without a station. -/
def Dataset.patchy : Dataset :=
  .rows ⟨[],
    [[("name", .string "a"), ("station", .array [.string "KDEN", .null, .array []])],
      [("name", .string "b")]]⟩

theorem Assembler.counts_every_row_patchy :
    CompiledDocument.compile .readings = .ok .readings ∧
      (assemble .nestedRows .readings .patchy []).counts.total = 2 ∧
      (assemble .rowPerDocument .readings .patchy []).counts.total = 2 + 2 := by
  have compiles : CompiledDocument.compile .readings = .ok .readings := rfl
  obtain ⟨nested, _, rowPerDocument⟩ := counts_every_row compiles .patchy []
  have unkeyed : unkeyedElements .readings .patchy [] Dataset.patchy.rowCount = 2 := by
    decide
  rw [unkeyed] at rowPerDocument
  exact ⟨compiles, nested, rowPerDocument⟩

end DocumentIngest
