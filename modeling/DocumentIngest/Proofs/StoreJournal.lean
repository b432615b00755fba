import DocumentIngest.Worker

/-!
# A store with a journal

To speak about which batches a worker sends, it is given a store that writes
every batch into a journal and otherwise does what the store inside it does.
The worker cannot tell the difference: forgetting the journal after a step or
before it comes to the same.
-/

namespace DocumentIngest

/-- A store and the batches that were sent to it, the latest last. -/
structure Journaled (σ : Type) where
  store : σ
  batches : List (List Json) := []

variable {σ : Type}

namespace Journaled

/-- Takes over what a call made of the store. -/
def update {α : Type} (journal : Journaled σ) (called : σ × α) : Journaled σ × α :=
  ({ journal with store := called.1 }, called.2)

instance [DocumentStore σ] : DocumentStore (Journaled σ) where
  connect journal := journal.update (DocumentStore.connect journal.store)
  upsert journal batch :=
    { journal with batches := journal.batches ++ [batch] }.update
      (DocumentStore.upsert journal.store batch)
  fetch journal id := journal.update (DocumentStore.fetch journal.store id)
  markers journal documentId := journal.update (DocumentStore.markers journal.store documentId)

end Journaled

/-- The archive without the journal. -/
def Archive.plain (archive : Archive (Journaled σ)) : Archive σ :=
  ⟨archive.store.store, archive.files, archive.now⟩

/-- The workshop without the journal. -/
def Workshop.plain (shop : Workshop (Journaled σ)) : Workshop σ :=
  ⟨shop.archive.plain, shop.queue, shop.done⟩

/-- The workshop with a journal in which nothing stands yet. -/
def Workshop.journaled (shop : Workshop σ) : Workshop (Journaled σ) :=
  ⟨⟨{ store := shop.archive.store }, shop.archive.files, shop.archive.now⟩, shop.queue, shop.done⟩

variable [DocumentStore σ] (archive : Archive (Journaled σ))

namespace Destination

theorem sendBatch_plain (batch : List Json) :
    sendBatch archive.plain batch =
      ((sendBatch archive batch).1.plain, (sendBatch archive batch).2) :=
  rfl

theorem batches_sendBatch (batch : List Json) :
    (sendBatch archive batch).1.store.batches = archive.store.batches ++ [batch] :=
  rfl

theorem markConsumed_plain (destination : Destination) (marker : Option DataFileRecord) :
    destination.markConsumed archive.plain marker =
      ((destination.markConsumed archive marker).1.plain,
        (destination.markConsumed archive marker).2) := by
  cases destination with
  | toFiles directory => rfl
  | toStore =>
      cases marker with
      | none => rfl
      | some record => rfl

omit [DocumentStore σ] in
theorem writeFile_plain (directory path : String) (value : Json) :
    writeFile archive.plain directory path value =
      ((writeFile archive directory path value).1.plain,
        (writeFile archive directory path value).2) := by
  simp only [writeFile, Archive.plain]
  cases archive.files.makeFolder? directory with
  | none => rfl
  | some files =>
      cases written : files.write? path value.pretty.toUTF8.toList archive.now with
      | none => simp only [written]
      | some later => simp only [written]

theorem deliver_plain (destination : Destination) (item : WorkItem) (documents : DocumentMap)
    (marker : Option DataFileRecord) :
    destination.deliver archive.plain item documents marker =
      ((destination.deliver archive item documents marker).1.plain,
        (destination.deliver archive item documents marker).2) := by
  cases documents with
  | nil =>
      simp only [deliver, List.isEmpty_nil, if_true, markConsumed_plain]
      rcases destination.markConsumed archive marker with ⟨archive', _ | _⟩ <;> rfl
  | cons entry rest =>
      cases destination with
      | toStore =>
          simp only [deliver, List.isEmpty_cons, Bool.false_eq_true, if_false, sendBatch_plain]
          rcases sendBatch archive (batch (entry :: rest) marker) with ⟨archive', _ | _⟩ <;> rfl
      | toFiles directory =>
          simp only [deliver, List.isEmpty_cons, Bool.false_eq_true, if_false, writeFile_plain]
          rcases writeFile archive directory (target directory item)
              (.array (Keyed.values (entry :: rest))) with ⟨archive', _ | _⟩ <;> rfl

end Destination

namespace Worker

theorem openDataset_plain (item : WorkItem) (document : IngestDocument) :
    openDataset archive.plain item document =
      ((openDataset archive item document).1.plain, (openDataset archive item document).2) := by
  obtain ⟨source, documentId⟩ := item
  cases source with
  | path path mtime => rfl
  | identifier id =>
      simp only [openDataset, Archive.plain, DocumentStore.fetch, Journaled.update]
      rcases DocumentStore.fetch archive.store.store id with ⟨store, _ | _⟩ <;> rfl

/-- Reading a dataset sends nothing. -/
theorem batches_openDataset (item : WorkItem) (document : IngestDocument) :
    (openDataset archive item document).1.store.batches = archive.store.batches := by
  obtain ⟨source, documentId⟩ := item
  cases source with
  | path path mtime => rfl
  | identifier id =>
      simp only [openDataset, DocumentStore.fetch, Journaled.update]
      rcases DocumentStore.fetch archive.store.store id with ⟨store, _ | _⟩ <;> rfl

theorem build_plain (pool : AssemblerPool) (document : IngestDocument) (item : WorkItem) :
    build pool archive.plain document item =
      ((build pool archive document item).1, (build pool archive document item).2.1.plain,
        (build pool archive document item).2.2) := by
  simp only [build, openDataset_plain]
  rcases openDataset archive item document with ⟨archive', _ | dataset⟩ <;> rfl

theorem batches_build (pool : AssemblerPool) (document : IngestDocument) (item : WorkItem) :
    (build pool archive document item).2.1.store.batches = archive.store.batches := by
  rw [← batches_openDataset archive item document, build]
  rcases openDataset archive item document with ⟨archive', _ | dataset⟩ <;> rfl

theorem write_plain (destination : Destination) (report : WorkerReport)
    (document : IngestDocument) (item : WorkItem) (built : Except Failure BuildOutcome) :
    write destination report archive.plain document item built =
      ((write destination report archive document item built).1,
        (write destination report archive document item built).2.plain) := by
  cases built with
  | error failure =>
      simp only [write, Destination.markConsumed_plain]
      rcases destination.markConsumed archive (item.marker document) with ⟨archive', _ | _⟩ <;> rfl
  | ok outcome => simp only [write, Destination.deliver_plain]

/-- Forgetting the journal before a step or after it comes to the same. -/
theorem step_plain (order : WorkOrder) (worker : Worker) (shop : Workshop (Journaled σ)) :
    step order worker shop.plain =
      ((step order worker shop).1, (step order worker shop).2.plain) := by
  obtain ⟨index, phase, pool, report⟩ := worker
  cases phase with
  | connecting attempts =>
      simp only [step, Workshop.plain, Archive.plain, DocumentStore.connect, Journaled.update]
      rcases DocumentStore.connect shop.archive.store.store with ⟨store, fault | _⟩
      · dsimp only
        split <;> rfl
      · rfl
  | polling emptyPolls =>
      simp only [step, Workshop.plain]
      rcases shop.queue.take with ⟨queue, ticket | _ | _⟩
      · rfl
      · dsimp only
        split <;> rfl
      · rfl
  | holding ticket => rfl
  | building ticket =>
      simp only [step]
      cases order.job.document? ticket.item.documentId with
      | none => rfl
      | some document => simp only [Workshop.plain, build_plain]
  | writing ticket document built => simp only [step, Workshop.plain, write_plain]
  | acknowledging ticket => rfl
  | finished => rfl
  | gaveUp fault => rfl

theorem runFor_plain (order : WorkOrder) (steps : Nat) (worker : Worker)
    (shop : Workshop (Journaled σ)) :
    runFor order steps worker shop.plain =
      ((runFor order steps worker shop).1, (runFor order steps worker shop).2.plain) := by
  induction steps generalizing worker shop with
  | zero => rfl
  | succ steps ih =>
      simp only [runFor]
      split
      · rfl
      · simp only [step_plain]
        exact ih _ _

end Worker

end DocumentIngest
