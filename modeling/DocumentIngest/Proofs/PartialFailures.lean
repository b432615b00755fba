import DocumentIngest.Proofs.NestedDocuments
import DocumentIngest.Proofs.RowwiseTemplates

/-!
# Rows that fail leave no trace

Whether a row counts, and what it makes of the documents, depends on the documents
before it and on nothing else that was built.  A row that does not count leaves the
documents as they were.  So a build may as well have been spared the rows that it did
not count, provided that the rows behind them, which move up, still read the same.
-/

namespace DocumentIngest

open Fallible
open Handler (StaysInRow)

namespace BuildOutcome

/-- Whether two outcomes have the same documents from the same number of rows. -/
structure Agrees (first second : BuildOutcome) : Prop where
  documents : first.documents = second.documents
  rowsOk : first.counts.rowsOk = second.counts.rowsOk

/-- Whether a step makes of the documents what an effect says, and counts a row, or has
no effect and counts none. -/
def Follows (step : BuildOutcome → BuildOutcome) (effect : DocumentMap → Option DocumentMap)
    (before : BuildOutcome) : Prop :=
  match effect before.documents with
  | none => (step before).Agrees before
  | some documents =>
      (step before).documents = documents ∧
        (step before).counts.rowsOk = before.counts.rowsOk + 1

/-- Whether a step, taken from documents that are objects, has an effect which depends
on those documents alone. -/
def HasEffect (step : BuildOutcome → BuildOutcome) : Prop :=
  ∃ effect, ∀ before, before.documents.All Json.Carries → Follows step effect before

variable {step : BuildOutcome → BuildOutcome}

theorem hasEffect_of_idle (idle : ∀ before, (step before).Agrees before) : HasEffect step :=
  ⟨fun _ => none, fun before _ => idle before⟩

theorem HasEffect.agrees (hasEffect : HasEffect step) {first second : BuildOutcome}
    (carriesFirst : first.documents.All Json.Carries)
    (carriesSecond : second.documents.All Json.Carries) (agrees : first.Agrees second) :
    (step first).Agrees (step second) := by
  obtain ⟨effect, follows⟩ := hasEffect
  have followsFirst := follows first carriesFirst
  have followsSecond := follows second carriesSecond
  rw [Follows, agrees.documents] at followsFirst
  rw [Follows] at followsSecond
  cases later : effect second.documents with
  | none =>
      simp only [later] at followsFirst followsSecond
      exact ⟨followsFirst.documents.trans (agrees.documents.trans followsSecond.documents.symm),
        followsFirst.rowsOk.trans (agrees.rowsOk.trans followsSecond.rowsOk.symm)⟩
  | some documents =>
      simp only [later] at followsFirst followsSecond
      refine ⟨followsFirst.1.trans followsSecond.1.symm, ?_⟩
      rw [followsFirst.2, followsSecond.2, agrees.rowsOk]

theorem HasEffect.agrees_of_not_counted (hasEffect : HasEffect step) {before : BuildOutcome}
    (carries : before.documents.All Json.Carries)
    (notCounted : (step before).counts.rowsOk ≠ before.counts.rowsOk + 1) :
    (step before).Agrees before := by
  obtain ⟨effect, follows⟩ := hasEffect
  have followsBefore := follows before carries
  rw [Follows] at followsBefore
  split at followsBefore
  · exact followsBefore
  · exact absurd followsBefore.2 notCounted

end BuildOutcome

open BuildOutcome (Follows HasEffect hasEffect_of_idle)

namespace RowPerDocument

theorem rowsOk_addElements (body : Json) (width index : Nat) (outcome : BuildOutcome)
    (elements : List Json) :
    (addElements body width index outcome elements).counts.rowsOk = outcome.counts.rowsOk := by
  induction elements generalizing index outcome with
  | nil => rfl
  | cons element rest ih =>
      rw [addElements, ih]
      split <;> rfl

/-- The documents of an id list are put among those there are, whatever was counted. -/
theorem documents_addElements (body : Json) (width index : Nat) (outcome : BuildOutcome)
    (elements : List Json) :
    (addElements body width index outcome elements).documents =
      (addElements body width index { documents := outcome.documents } elements).documents := by
  suffices same : ∀ other : BuildOutcome, outcome.documents = other.documents →
      (addElements body width index outcome elements).documents =
        (addElements body width index other elements).documents from same _ rfl
  induction elements generalizing index outcome with
  | nil => exact fun _ same => same
  | cons element rest ih =>
      intro other same
      rw [addElements, addElements]
      apply ih
      split
      · simp only [BuildOutcome.put, same]
      · exact same

theorem hasEffect_addRow (compiled : CompiledDocument) (context : RowContext) :
    HasEffect (addRow compiled context) := by
  cases resolved : compiled.id.resolve BuilderType.rowPerDocument.handlers context false with
  | error fault =>
      apply hasEffect_of_idle
      intro before
      simp only [addRow, resolved]
      exact ⟨rfl, rfl⟩
  | ok id =>
  cases bodyResolved : compiled.body.resolve BuilderType.rowPerDocument.handlers context
      compiled.optionalFields with
  | error fault =>
      apply hasEffect_of_idle
      intro before
      cases id <;>
        · simp only [addRow, resolved, bodyResolved]
          exact ⟨rfl, rfl⟩
  | ok body =>
  cases id with
  | missing =>
      apply hasEffect_of_idle
      intro before
      simp only [addRow, resolved]
      exact ⟨rfl, rfl⟩
  | scalar value =>
      cases found : (Resolved.scalar value).asKey? with
      | none =>
          apply hasEffect_of_idle
          intro before
          simp only [addRow, resolved, bodyResolved, found]
          exact ⟨rfl, rfl⟩
      | some key =>
          refine ⟨fun documents =>
            some (Keyed.insert documents key ((body.getD (.object [])).withId key)), ?_⟩
          intro before _
          simp only [Follows, addRow, resolved, bodyResolved, found]
          exact ⟨rfl, rfl⟩
  | list ids =>
      refine ⟨fun documents =>
        some (addElements (body.getD (.object [])) ids.length 0 { documents } ids).documents, ?_⟩
      intro before _
      simp only [Follows, addRow, resolved, bodyResolved]
      refine ⟨documents_addElements _ _ _ before ids, ?_⟩
      exact congrArg (· + 1) (rowsOk_addElements _ _ _ before ids)

end RowPerDocument

namespace NestedRows

/-- A document that is an object takes what a row enters, and the row counts. -/
theorem rowsOk_putEntry (outcome : BuildOutcome) (id : String) (fields : Json.Fields)
    (entry : Option (String × Json)) :
    (putEntry outcome id (.object fields) entry).counts.rowsOk = outcome.counts.rowsOk + 1 := by
  rcases entry with _ | ⟨key, value⟩ <;> rfl

theorem hasEffect_addRow {compiled : CompiledDocument}
    (ensures : compiled.Ensures Json.Carries) (context : RowContext) :
    HasEffect (addRow compiled context) := by
  cases resolved : compiled.id.resolve BuilderType.nestedRows.handlers context false with
  | error fault =>
      apply hasEffect_of_idle
      intro before
      simp only [addRow, resolved]
      exact ⟨rfl, rfl⟩
  | ok named =>
  cases found : named.asKey? with
  | none =>
      apply hasEffect_of_idle
      intro before
      simp only [addRow, resolved, found]
      exact ⟨rfl, rfl⟩
  | some id =>
  cases entered : entry compiled context with
  | none =>
      apply hasEffect_of_idle
      intro before
      simp only [addRow, resolved, found, entered]
      exact ⟨rfl, rfl⟩
  | some value =>
      -- from here on it depends on the documents whether the row has to start one
      refine ⟨fun documents => (documentFor compiled context documents id).map fun document =>
        Keyed.insert documents id (withEntry document value), ?_⟩
      intro before all
      cases started : documentFor compiled context before.documents id with
      | none =>
          simp only [Follows, addRow, resolved, found, entered, started, Option.map_none]
          exact ⟨rfl, rfl⟩
      | some document =>
          simp only [Follows, addRow, resolved, found, entered, started, Option.map_some]
          -- the exit for documents that are no objects is never taken
          obtain ⟨fields, rfl, _⟩ := holds_documentFor ensures all resolved found started
          exact ⟨documents_putEntry _ _ _ _, rowsOk_putEntry _ _ _ _⟩

end NestedRows

namespace RowList

/-- The rows whose numbers are not removed, in order. -/
def keptOf (removed : Nat → Bool) (rows : List Json.Fields) : List Json.Fields :=
  (rows.zipIdx.filter fun entry => !removed entry.2).map Prod.fst

/-- A dataset with some of its rows removed, and the same metadata. -/
def without (list : RowList) (removed : Nat → Bool) : RowList :=
  { list with rows := keptOf removed list.rows }

theorem keptOf_concat (removed : Nat → Bool) (rows : List Json.Fields) (fields : Json.Fields) :
    keptOf removed (rows ++ [fields]) =
      keptOf removed rows ++ if removed rows.length then [] else [fields] := by
  cases gone : removed rows.length <;>
    simp [keptOf, List.zipIdx_append, List.filter_append, gone]

/-- A row of a list looks the same as if it were the only one. -/
theorem alike_alone {list : RowList} {row : Nat} {fields : Json.Fields}
    (found : list.rows[row]? = some fields) (parameters : Json.Fields) :
    ((Dataset.rows list).contextAt parameters row).Alike
      ((Dataset.rows ⟨list.metadata, [fields]⟩).contextAt parameters 0) where
  field := by
    intro name
    simp only [Dataset.contextAt, Dataset.field, RowList.field, RowList.fill, found]
    rfl
  metadata := fun _ => rfl
  parameters := rfl

end RowList

namespace Assembler

variable {builder : BuilderType} {compiled : CompiledDocument} {parameters : Json.Fields}

theorem hasEffect_addRow (ensures : compiled.Ensures Json.Carries) (builder : BuilderType)
    (context : RowContext) : HasEffect (addRow builder compiled context) := by
  cases builder with
  | rowPerDocument => exact RowPerDocument.hasEffect_addRow compiled context
  | nestedRows => exact NestedRows.hasEffect_addRow ensures context

/-- Whether a build counts a row when it gets there. -/
def Counts (builder : BuilderType) (compiled : CompiledDocument) (dataset : Dataset)
    (parameters : Json.Fields) (row : Nat) : Prop :=
  (addRows builder compiled dataset parameters (row + 1)).counts.rowsOk =
    (addRows builder compiled dataset parameters row).counts.rowsOk + 1

/-- Adds row objects one by one, each as if it were the only row. -/
def addAlone (builder : BuilderType) (compiled : CompiledDocument)
    (metadata parameters : Json.Fields) (rows : List Json.Fields) : BuildOutcome :=
  rows.foldl
    (fun outcome fields =>
      addRow builder compiled ((Dataset.rows ⟨metadata, [fields]⟩).contextAt parameters 0) outcome)
    { state := .iteratingRows }

theorem addAlone_concat (metadata : Json.Fields) (rows : List Json.Fields)
    (fields : Json.Fields) :
    addAlone builder compiled metadata parameters (rows ++ [fields]) =
      addRow builder compiled ((Dataset.rows ⟨metadata, [fields]⟩).contextAt parameters 0)
        (addAlone builder compiled metadata parameters rows) := by
  simp only [addAlone, List.foldl_append, List.foldl_cons, List.foldl_nil]

/-- A build that asks neither for row numbers nor for columns that it is provided with adds
each row as if it were the only one. -/
theorem addRows_eq_addAlone_of_known (builder : BuilderType) (parameters : Json.Fields)
    (stays : StaysInRow (Handler.known builder.handlers compiled.handlerNames)) (list : RowList)
    {count : Nat} (within : count ≤ list.rowCount) :
    addRows builder compiled (.rows list) parameters count =
      addAlone builder compiled list.metadata parameters (list.rows.take count) := by
  induction count with
  | zero => rfl
  | succ count ih =>
      have there : count < list.rows.length := within
      have found : list.rows[count]? = some list.rows[count] := List.getElem?_eq_getElem there
      rw [addRows_succ, ih (Nat.le_of_lt there), List.take_add_one, found, Option.toList_some,
        addAlone_concat, addRow_congr ((RowList.alike_alone found parameters).forNames stays)]

/-- A build that stays in its rows adds each of them as if it were the only one. -/
theorem addRows_eq_addAlone (builder : BuilderType) (parameters : Json.Fields)
    (stays : StaysInRow compiled.handlerNames) (list : RowList) {count : Nat}
    (within : count ≤ list.rowCount) :
    addRows builder compiled (.rows list) parameters count =
      addAlone builder compiled list.metadata parameters (list.rows.take count) :=
  addRows_eq_addAlone_of_known builder parameters stays.known list within

theorem all_addAlone (builder : BuilderType) (parameters : Json.Fields)
    (ensures : compiled.Ensures Json.Carries) (stays : StaysInRow compiled.handlerNames)
    (metadata : Json.Fields) (rows : List Json.Fields) :
    (addAlone builder compiled metadata parameters rows).documents.All Json.Carries := by
  have whole := addRows_eq_addAlone builder parameters stays ⟨metadata, rows⟩
    (Nat.le_refl rows.length)
  rw [List.take_length] at whole
  rw [← whole]
  exact all_addRows ensures builder _ parameters rows.length

variable {list : RowList} {removed : Nat → Bool}

/-- Adding the rows that are kept agrees, all along, with adding all rows, if those that
are removed do not count. -/
theorem agrees_keptOf (ensures : compiled.Ensures Json.Carries)
    (stays : StaysInRow compiled.handlerNames)
    (uncounted : ∀ row < list.rowCount, removed row = true →
      ¬ Counts builder compiled (.rows list) parameters row)
    {count : Nat} (within : count ≤ list.rowCount) :
    (addAlone builder compiled list.metadata parameters
      (RowList.keptOf removed (list.rows.take count))).Agrees
        (addRows builder compiled (.rows list) parameters count) := by
  induction count with
  | zero => exact ⟨rfl, rfl⟩
  | succ count ih =>
      have there : count < list.rows.length := within
      have found : list.rows[count]? = some list.rows[count] := List.getElem?_eq_getElem there
      have position : (list.rows.take count).length = count := by
        rw [List.length_take]
        omega
      have soFar := ih (Nat.le_of_lt there)
      have carries := all_addRows ensures builder (.rows list) parameters count
      have hasEffect :=
        hasEffect_addRow ensures builder ((Dataset.rows list).contextAt parameters count)
      rw [List.take_add_one, found, Option.toList_some, RowList.keptOf_concat, position]
      split
      · next gone =>
          have notCounted := uncounted count there gone
          rw [Counts, addRows_succ] at notCounted
          have unchanged := hasEffect.agrees_of_not_counted carries notCounted
          rw [List.append_nil, addRows_succ]
          exact ⟨soFar.documents.trans unchanged.documents.symm,
            soFar.rowsOk.trans unchanged.rowsOk.symm⟩
      · have carriesKept := all_addAlone builder parameters ensures stays list.metadata
          (RowList.keptOf removed (list.rows.take count))
        have alike := (RowList.alike_alone found parameters).forNames stays
        rw [addAlone_concat, ← addRow_congr (alike.known builder.handlers), addRows_succ]
        exact hasEffect.agrees carriesKept carries soFar

/-- Rows that fail do so on their own.  With either builder, leaving rows that a build
did not count out of the dataset changes neither its documents nor its count of rows,
unless a template asks for row numbers or whole columns. -/
theorem isolates_failures (builder : BuilderType) {document : IngestDocument}
    (compiles : CompiledDocument.compile document = .ok compiled)
    (stays : "row_index" ∉ compiled.handlerNames ∧ "column" ∉ compiled.handlerNames)
    (list : RowList) (parameters : Json.Fields) (removed : Nat → Bool)
    (uncounted : ∀ row < list.rowCount, removed row = true →
      ¬ Counts builder compiled (.rows list) parameters row) :
    (assemble builder compiled (.rows (list.without removed)) parameters).documents =
        (assemble builder compiled (.rows list) parameters).documents ∧
      (assemble builder compiled (.rows (list.without removed)) parameters).counts.rowsOk =
        (assemble builder compiled (.rows list) parameters).counts.rowsOk := by
  have ensures := CompiledDocument.ensures_carries compiles
  have agrees := agrees_keptOf ensures stays uncounted (Nat.le_refl list.rowCount)
  have kept := addRows_eq_addAlone builder parameters stays (list.without removed)
    (Nat.le_refl (list.without removed).rowCount)
  rw [RowList.rowCount, List.take_length] at agrees kept
  rw [assemble_eq, assemble_eq]
  constructor
  · exact (congrArg BuildOutcome.documents kept).trans agrees.documents
  · exact (congrArg (·.counts.rowsOk) kept).trans agrees.rowsOk

end Assembler

/-- Readings of which the one in the middle has no station. -/
def RowList.gapped : RowList :=
  ⟨[],
    [[("name", .string "a"), ("station", .string "KDEN"), ("temp", .ofNat 1)],
      [("name", .string "b"), ("temp", .ofNat 2)],
      [("name", .string "c"), ("station", .string "KDEN"), ("temp", .ofNat 3)]]⟩

theorem Assembler.isolates_failures_gapped :
    CompiledDocument.compile .readings = .ok .readings ∧
      ("row_index" ∉ CompiledDocument.readings.handlerNames ∧
        "column" ∉ CompiledDocument.readings.handlerNames) ∧
      ¬ Counts .nestedRows .readings (.rows .gapped) [] 1 ∧
      (assemble .nestedRows .readings (.rows (RowList.gapped.without (· == 1))) []).documents =
        (assemble .nestedRows .readings (.rows .gapped) []).documents := by
  have compiles : CompiledDocument.compile .readings = .ok .readings := rfl
  have stays : "row_index" ∉ CompiledDocument.readings.handlerNames ∧
      "column" ∉ CompiledDocument.readings.handlerNames := by decide
  have skipped : ¬ Counts .nestedRows .readings (.rows .gapped) [] 1 := by
    rw [Counts]
    decide
  refine ⟨compiles, stays, skipped, ?_⟩
  have isolated := isolates_failures .nestedRows compiles stays .gapped [] (· == 1) (by
    intro row _ gone
    have isMiddle : row = 1 := by simpa using gone
    exact isMiddle ▸ skipped)
  exact isolated.1

end DocumentIngest
