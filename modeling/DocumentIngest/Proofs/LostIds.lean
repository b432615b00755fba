import DocumentIngest.Proofs.RowCounts

/-!
# Rows without a document id

A row whose id fails, is missing or has no key text counts as a failed document and as
nothing else, with one exception: where every row is a document, an id without a key text
is only looked at once the body is resolved, so a body that fails makes the row a skipped
one.  Nested rows look at the id first.
-/

namespace DocumentIngest

namespace Assembler

/-- Whether a row has no document id.  An id that is a list is not lost: it may be shared
out. -/
def losesId (builder : BuilderType) (compiled : CompiledDocument) (context : RowContext) : Bool :=
  match compiled.id.resolve builder.handlers context false with
  | .error _ => true
  | .ok (.list _) => false
  | .ok id => id.asKey?.isNone

/-- Whether the id of a row is a list. -/
def listsIds (builder : BuilderType) (compiled : CompiledDocument) (context : RowContext) : Bool :=
  match compiled.id.resolve builder.handlers context false with
  | .ok (.list _) => true
  | _ => false

/-- Whether a row has an id without a key text that is not looked at, because the body
comes first and fails. -/
def hidesLoss (builder : BuilderType) (compiled : CompiledDocument) (context : RowContext) : Bool :=
  match builder with
  | .nestedRows => false
  | .rowPerDocument =>
      match compiled.id.resolve BuilderType.rowPerDocument.handlers context false with
      | .ok (.scalar value) =>
          (Resolved.scalar value).asKey?.isNone &&
            !(compiled.body.resolve BuilderType.rowPerDocument.handlers context
              compiled.optionalFields).isOk
      | _ => false

/-- How many failed documents a row counts. -/
def failedBy (builder : BuilderType) (compiled : CompiledDocument) (context : RowContext) : Nat :=
  if losesId builder compiled context then if hidesLoss builder compiled context then 0 else 1
  else
    match builder with
    | .nestedRows => if listsIds .nestedRows compiled context then 1 else 0
    | .rowPerDocument =>
        if (compiled.body.resolve BuilderType.rowPerDocument.handlers context
            compiled.optionalFields).isOk then
          RowPerDocument.unkeyed (RowPerDocument.elementsOf compiled context)
        else 0

end Assembler

namespace NestedRows

open Assembler (losesId hidesLoss listsIds failedBy)

variable {compiled : CompiledDocument} {context : RowContext}

/-- Only an id with a key text lets a row pass. -/
theorem addRow_of_unkeyed (unkeyed : losesId .nestedRows compiled context = true ∨
      listsIds .nestedRows compiled context = true) (outcome : BuildOutcome) :
    addRow compiled context outcome = outcome.countWithoutId := by
  cases resolved : compiled.id.resolve BuilderType.nestedRows.handlers context false with
  | error fault => simp only [addRow, resolved]
  | ok id =>
      have noKey : id.asKey? = none := by
        cases id with
        | list elements => rfl
        | _ => simpa [losesId, listsIds, resolved] using unkeyed
      simp only [addRow, resolved, noKey]

theorem documentsFailed_putEntry (outcome : BuildOutcome) (id : String) (document : Json)
    (entry : Option (String × Json)) :
    (putEntry outcome id document entry).counts.documentsFailed =
      outcome.counts.documentsFailed := by
  rcases entry with _ | ⟨key, value⟩
  · rfl
  · cases document <;> rfl

/-- A row with an id is no failed document, whatever else becomes of it. -/
theorem documentsFailed_of_keyed {id : Resolved} {key : String}
    (resolved : compiled.id.resolve BuilderType.nestedRows.handlers context false = .ok id)
    (hasKey : id.asKey? = some key) (outcome : BuildOutcome) :
    (addRow compiled context outcome).counts.documentsFailed =
      outcome.counts.documentsFailed := by
  simp only [addRow, resolved, hasKey]
  split
  · rfl
  · split
    · rfl
    · exact documentsFailed_putEntry _ _ _ _

theorem documentsFailed_addRow (compiled : CompiledDocument) (context : RowContext)
    (outcome : BuildOutcome) :
    (addRow compiled context outcome).counts.documentsFailed =
      outcome.counts.documentsFailed + failedBy .nestedRows compiled context := by
  rw [failedBy]
  cases loses : losesId .nestedRows compiled context with
  | true =>
      rw [addRow_of_unkeyed (.inl loses)]
      rfl
  | false =>
      cases lists : listsIds .nestedRows compiled context with
      | true =>
          rw [addRow_of_unkeyed (.inr lists)]
          rfl
      | false =>
          -- what neither fails nor is a list has a key text
          cases resolved : compiled.id.resolve BuilderType.nestedRows.handlers context false with
          | error fault => simp [losesId, resolved] at loses
          | ok id =>
              cases hasKey : id.asKey? with
              | some key => simp [documentsFailed_of_keyed resolved hasKey]
              | none => cases id <;> simp_all [losesId, listsIds]

end NestedRows

namespace RowPerDocument

open Assembler (losesId hidesLoss listsIds failedBy)

variable {compiled : CompiledDocument} {context : RowContext}

theorem addRow_of_losesId (loses : losesId .rowPerDocument compiled context = true)
    (outcome : BuildOutcome) :
    addRow compiled context outcome =
      if hidesLoss .rowPerDocument compiled context then outcome.countSkipped
      else outcome.countWithoutId := by
  cases resolved : compiled.id.resolve BuilderType.rowPerDocument.handlers context false with
  | error fault => simp [addRow, hidesLoss, resolved]
  | ok id =>
      cases id with
      | missing => simp [addRow, hidesLoss, resolved]
      | list elements => simp [losesId, resolved] at loses
      | scalar value =>
          have noKey : (Resolved.scalar value).asKey? = none := by
            simpa [losesId, resolved] using loses
          cases bodyResolved : compiled.body.resolve BuilderType.rowPerDocument.handlers context
              compiled.optionalFields with
          | error fault =>
              simp [addRow, hidesLoss, resolved, bodyResolved, noKey, Except.isOk, Except.toBool]
          | ok body =>
              simp [addRow, hidesLoss, resolved, bodyResolved, noKey, Except.isOk, Except.toBool]

theorem documentsFailed_addRow (compiled : CompiledDocument) (context : RowContext)
    (outcome : BuildOutcome) :
    (addRow compiled context outcome).counts.documentsFailed =
      outcome.counts.documentsFailed + failedBy .rowPerDocument compiled context := by
  rw [failedBy]
  cases loses : losesId .rowPerDocument compiled context with
  | true =>
      rw [addRow_of_losesId loses]
      cases hidesLoss .rowPerDocument compiled context <;> rfl
  | false =>
      cases resolved : compiled.id.resolve BuilderType.rowPerDocument.handlers context false with
      | error fault => simp [losesId, resolved] at loses
      | ok id =>
      cases bodyResolved : compiled.body.resolve BuilderType.rowPerDocument.handlers context
          compiled.optionalFields with
      | error fault =>
          cases id with
          | missing => simp [losesId, resolved, Resolved.asKey?] at loses
          | _ => simp [addRow, resolved, bodyResolved, BuildOutcome.countSkipped, Except.isOk,
              Except.toBool]
      | ok body =>
          cases id with
          | missing => simp [losesId, resolved, Resolved.asKey?] at loses
          | list elements =>
              simp [addRow, resolved, bodyResolved, counts_addElements, elementsOf,
                BuildOutcome.countOk, Except.isOk, Except.toBool]
          | scalar value =>
              cases hasKey : (Resolved.scalar value).asKey? with
              | none => simp [losesId, resolved, hasKey] at loses
              | some key =>
                  simp [addRow, resolved, bodyResolved, hasKey, elementsOf, unkeyed,
                    BuildOutcome.countOk, Except.isOk, Except.toBool]

end RowPerDocument

namespace Assembler

theorem hidesLoss_iff {builder : BuilderType} {compiled : CompiledDocument}
    {context : RowContext} :
    hidesLoss builder compiled context = true ↔ builder = .rowPerDocument ∧
      (∃ value, compiled.id.resolve builder.handlers context false = .ok (.scalar value) ∧
        (Resolved.scalar value).asKey? = none) ∧
      ∃ fault, compiled.body.resolve builder.handlers context compiled.optionalFields =
        .error fault := by
  cases builder with
  | nestedRows => simp [hidesLoss]
  | rowPerDocument =>
      rw [hidesLoss]
      cases compiled.body.resolve BuilderType.rowPerDocument.handlers context
          compiled.optionalFields <;>
        rcases compiled.id.resolve BuilderType.rowPerDocument.handlers context false with
          fault | _ | value | elements <;>
        simp [Except.isOk, Except.toBool]

theorem addRow_of_losesId {builder : BuilderType} {compiled : CompiledDocument}
    {context : RowContext} (loses : losesId builder compiled context = true)
    (outcome : BuildOutcome) :
    addRow builder compiled context outcome =
      if hidesLoss builder compiled context then outcome.countSkipped
      else outcome.countWithoutId := by
  cases builder with
  | nestedRows => exact NestedRows.addRow_of_unkeyed (.inl loses) outcome
  | rowPerDocument => exact RowPerDocument.addRow_of_losesId loses outcome

theorem documentsFailed_addRow (builder : BuilderType) (compiled : CompiledDocument)
    (context : RowContext) (outcome : BuildOutcome) :
    (addRow builder compiled context outcome).counts.documentsFailed =
      outcome.counts.documentsFailed + failedBy builder compiled context := by
  cases builder with
  | nestedRows => exact NestedRows.documentsFailed_addRow compiled context outcome
  | rowPerDocument => exact RowPerDocument.documentsFailed_addRow compiled context outcome

theorem documentsFailed_addRows (builder : BuilderType) (compiled : CompiledDocument)
    (dataset : Dataset) (parameters : Json.Fields) (rows : Nat) :
    (addRows builder compiled dataset parameters rows).counts.documentsFailed =
      ((List.range rows).map fun row =>
        failedBy builder compiled (dataset.contextAt parameters row)).sum := by
  induction rows with
  | zero => rfl
  | succ rows ih =>
      rw [addRows_succ, documentsFailed_addRow, ih, List.range_succ, List.map_append,
        List.sum_append, List.map_singleton, List.sum_singleton]

/-- A row without a document id counts as a failed document and as nothing else, unless
its loss is hidden: then it counts as skipped.  Hidden are the losses of ids without a key
text where every row is a document and the body fails.  The failed documents of a whole
build are those of its rows. -/
theorem losses_count_unless_hidden (builder : BuilderType) (compiled : CompiledDocument) :
    (∀ context, losesId builder compiled context = true → ∀ outcome,
      addRow builder compiled context outcome =
        if hidesLoss builder compiled context then outcome.countSkipped
        else outcome.countWithoutId) ∧
    (∀ context, hidesLoss builder compiled context = true ↔ builder = .rowPerDocument ∧
      (∃ value, compiled.id.resolve builder.handlers context false = .ok (.scalar value) ∧
        (Resolved.scalar value).asKey? = none) ∧
      ∃ fault, compiled.body.resolve builder.handlers context compiled.optionalFields =
        .error fault) ∧
    ∀ dataset parameters,
      (assemble builder compiled dataset parameters).counts.documentsFailed =
        ((List.range dataset.rowCount).map fun row =>
          failedBy builder compiled (dataset.contextAt parameters row)).sum := by
  refine ⟨fun _ loses => addRow_of_losesId loses, fun _ => hidesLoss_iff, ?_⟩
  intro dataset parameters
  rw [assemble_eq]
  exact documentsFailed_addRows builder compiled dataset parameters dataset.rowCount

end Assembler

/-- A document a row, named by the station and with its levels in a key. -/
def IngestDocument.keyless : IngestDocument :=
  ⟨"keyless", .rowPerDocument, "",
    .object [("id", .string "*station"), ("levels", .string "L:*levels")], [], [], [], none, none,
    none⟩

/-- A station that is an object, with a list of levels. -/
def RowContext.keyless : RowContext :=
  ⟨.rows ⟨[], [[("levels", .array [.ofNat 1]), ("station", .object [])]]⟩, 0, []⟩

def CompiledDocument.keyless : CompiledDocument :=
  ⟨.field "station",
    .object [("levels", .token (.composite [.literal "L", .field "levels"]))], none, none, []⟩

theorem Assembler.losses_count_unless_hidden_keyless :
    losesId .nestedRows .keyless .keyless = true ∧
      addRow .nestedRows .keyless .keyless {} = BuildOutcome.countWithoutId {} ∧
      losesId .rowPerDocument .keyless .keyless = true ∧
      addRow .rowPerDocument .keyless .keyless {} = BuildOutcome.countSkipped {} := by
  have nested : losesId .nestedRows .keyless .keyless = true := rfl
  have perRow : losesId .rowPerDocument .keyless .keyless = true := rfl
  exact ⟨nested, (losses_count_unless_hidden .nestedRows .keyless).1 _ nested {},
    perRow, (losses_count_unless_hidden .rowPerDocument .keyless).1 _ perRow {}⟩

/-- An object for a station has no key text, and yet the row counts as skipped if its
levels cannot be joined into a key. -/
theorem Assembler.not_countsEveryLoss :
    ¬∀ (document : IngestDocument) (compiled : CompiledDocument),
      CompiledDocument.compile document = .ok compiled →
        ∀ context, losesId document.builder compiled context = true → ∀ outcome,
          (addRow document.builder compiled context outcome).counts =
            (BuildOutcome.countWithoutId outcome).counts := by
  intro counts
  have compiles : CompiledDocument.compile .keyless = .ok .keyless := rfl
  have counted := counts _ _ compiles .keyless rfl {}
  exact absurd counted (by decide)

end DocumentIngest
