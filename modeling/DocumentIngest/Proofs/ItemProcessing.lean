import DocumentIngest.Proofs.Deliveries
import DocumentIngest.Proofs.StoreJournal
import DocumentIngest.Proofs.ValidatedJobs

/-!
# One item, at most one write

Between taking a ticket and acknowledging it a worker builds the work item and
writes it.  In store mode that sends at most one batch, which holds all built
documents and behind them the marker of the file, so the store has either taken
the item as a whole or knows nothing of it.  The report says which.
-/

namespace DocumentIngest

open Fallible

namespace Worker

/-- What a worker does with a ticket in the ledger before acknowledging it: it
builds the item and writes it, two steps. -/
def process {σ : Type} [DocumentStore σ] (order : WorkOrder) (ticket : Ticket) (worker : Worker)
    (shop : Workshop σ) : Worker × Workshop σ :=
  runFor order 2 { worker with phase := .building ticket } shop

theorem process_eq {σ : Type} [DocumentStore σ] {order : WorkOrder} {ticket : Ticket}
    {document : IngestDocument}
    (known : order.job.document? ticket.item.documentId = some document) (worker : Worker)
    (shop : Workshop σ) :
    process order ticket worker shop =
      ({ worker with
          phase := .acknowledging ticket
          pool := (build worker.pool shop.archive document ticket.item).1
          report :=
            (write order.destination worker.report
              (build worker.pool shop.archive document ticket.item).2.1 document ticket.item
              (build worker.pool shop.archive document ticket.item).2.2).1 },
        { shop with
          archive :=
            (write order.destination worker.report
              (build worker.pool shop.archive document ticket.item).2.1 document ticket.item
              (build worker.pool shop.archive document ticket.item).2.2).2 }) := by
  simp only [process, runFor, isDone, Bool.false_eq_true, if_false, step, known]

theorem openDataset_memory (archive : Archive MemoryStore) (item : WorkItem)
    (document : IngestDocument) : (openDataset archive item document).1 = archive := by
  obtain ⟨source, documentId⟩ := item
  cases source with
  | path path mtime => rfl
  | identifier id =>
      simp only [openDataset, DocumentStore.fetch]
      cases archive.store.fetch id with
      | error fault => rfl
      | ok record => rfl

theorem build_memory (pool : AssemblerPool) (archive : Archive MemoryStore)
    (document : IngestDocument) (item : WorkItem) :
    (build pool archive document item).2.1 = archive := by
  -- Only opening the dataset reaches the store.
  conv_rhs => rw [← openDataset_memory archive item document]
  rw [build]
  rcases openDataset archive item document with ⟨archive', _ | dataset⟩ <;> rfl

section

variable {job : Job} {pool : AssemblerPool} {document : IngestDocument}

/-- What holds of all documents that are assembled holds of those that a worker builds: a
build that fails or breaks off has none. -/
theorem all_build {P : String → Json → Prop} (valid : job.validate = .ok ())
    (reachable : pool.Reachable job.documents) (member : document ∈ job.documents)
    {compiled : CompiledDocument} (compiles : CompiledDocument.compile document = .ok compiled)
    {σ : Type} [DocumentStore σ] (archive : Archive σ) (item : WorkItem)
    (assembled : ∀ dataset, (Assembler.assemble document.builder compiled dataset
      (item.parameterBag document)).documents.All P) :
    (documentsOf (build pool archive document item).2.2).All P := by
  obtain ⟨later, again, _, compilesAgain, built⟩ :=
    build_of_validate valid reachable member archive item
  cases compiles.symm.trans compilesAgain
  rw [built]
  cases (openDataset archive item document).2 with
  | error failure => exact DocumentMap.all_nil
  | ok dataset =>
      change (documentsOf (outcomeOf document compiled item dataset)).All P
      rw [outcomeOf]
      split
      · exact DocumentMap.all_nil
      · exact assembled dataset

theorem carries_build (valid : job.validate = .ok ()) (reachable : pool.Reachable job.documents)
    (member : document ∈ job.documents) {σ : Type} [DocumentStore σ] (archive : Archive σ)
    (item : WorkItem) :
    (documentsOf (build pool archive document item).2.2).All Json.Carries := by
  obtain ⟨compiled, compiles, _⟩ := Job.accepts_of_validate valid member
  exact all_build valid reachable member compiles archive item fun dataset =>
    Assembler.all_assemble (CompiledDocument.ensures_carries compiles) _ dataset _

end

end Worker

theorem Job.document?_of_mem {job : Job} (valid : job.validate = .ok ())
    {document : IngestDocument} (member : document ∈ job.documents) :
    job.document? document.id = some document := by
  cases found : job.document? document.id with
  | none =>
      have absent := List.find?_eq_none.mp found document member
      simp at absent
  | some other =>
      have sameId : other.id = document.id := by simpa using List.find?_some found
      rw [Job.eq_of_id_eq valid (List.mem_of_find?_eq_some found) member sameId]

namespace Destination

theorem carried_entries {documents : DocumentMap} (carries : documents.All Json.Carries)
    (marker : Option DataFileRecord) :
    ∀ entry ∈ entries documents marker, entry.2.textField? "id" = some entry.1 := by
  intro entry member
  rcases List.mem_append.mp member with built | marking
  · exact Json.textField?_of_carries (carries entry built)
  · obtain ⟨record, _, rfl⟩ := List.mem_map.mp marking
    exact record.textField?_id_toJson

end Destination

namespace Worker

/-- What a work item leaves in the store: what was built for it, and its marker. -/
def leaves (item : WorkItem) (document : IngestDocument) (built : Except Failure BuildOutcome) :
    List (String × Json) :=
  Destination.entries (documentsOf built) (item.marker document)

/-- What processing a work item does to the store in memory and to the report of
the worker; `upserts` are the batches that were sent. -/
structure WritesOnce (item : WorkItem) (document : IngestDocument)
    (built : Except Failure BuildOutcome) (upserts : List (List Json))
    (report : WorkerReport) (store : MemoryStore) (reportAfter : WorkerReport)
    (storeAfter : MemoryStore) : Prop where
  atMostOne : upserts.length ≤ 1
  /-- The batch, if there is one, holds all that the item leaves. -/
  batch : upserts =
    if leaves item document built = [] then [] else [(leaves item document built).map Prod.snd]
  underIds : ∀ entry ∈ leaves item document built, entry.2.textField? "id" = some entry.1
  lost : store.TimesOut (leaves item document built) →
    storeAfter.documents = store.documents
  landed : ¬store.TimesOut (leaves item document built) →
    storeAfter.documents = MemoryStore.overlay store.documents (leaves item document built)
  /-- The marker of a file is there even if nothing was built. -/
  marked : ∀ path mtime, item.source = .path path mtime →
    ¬store.TimesOut (leaves item document built) →
      Keyed.lookup storeAfter.documents (DataFileRecord.make path mtime document).id =
        some (DataFileRecord.make path mtime document).toJson
  itemsOk : reportAfter.itemsOk = report.itemsOk +
    if built.isOk ∧ ¬store.TimesOut (leaves item document built) then 1 else 0
  itemsFailed : reportAfter.itemsFailed = report.itemsFailed +
    if built.isOk ∧ ¬store.TimesOut (leaves item document built) then 0 else 1
  partialDispatches : reportAfter.partialDispatches = report.partialDispatches +
    if store.TimesOut (leaves item document built) then 1 else 0

/-- The batches that a delivery sends to a store with a journal. -/
theorem batches_deliver {σ : Type} [DocumentStore σ] (archive : Archive (Journaled σ))
    (item : WorkItem) (documents : DocumentMap) (marker : Option DataFileRecord) :
    (Destination.toStore.deliver archive item documents marker).1.store.batches =
      archive.store.batches ++
        if Destination.entries documents marker = [] then []
        else [(Destination.entries documents marker).map Prod.snd] := by
  rcases Destination.deliver_toStore archive item documents marker with
    ⟨nothing, same⟩ | ⟨some, sent, _⟩
  · rw [same, if_pos nothing, List.append_nil]
  · rw [sent, Destination.batches_sendBatch, Destination.batch_eq, if_neg some]

/-- A marker stands behind everything else, so nothing that is written with it
can cover it. -/
theorem lookup_overlay_marker (documents old : DocumentMap) (record : DataFileRecord) :
    Keyed.lookup (MemoryStore.overlay old (Destination.entries documents (some record)))
      record.id = some record.toJson := by
  simp [MemoryStore.overlay, Destination.entries]

end Worker

/-- A worker that processes an item of a validated job in store mode sends at most
one batch.  It is taken as a whole or, if a timeout is armed, not at all, and the
report counts the item accordingly. -/
theorem Worker.process_writes_once {order : WorkOrder} (valid : order.job.validate = .ok ())
    (toStore : order.destination = .toStore) {document : IngestDocument}
    (member : document ∈ order.job.documents) {ticket : Ticket}
    (ofDocument : ticket.item.documentId = document.id) {worker : Worker}
    (reachable : worker.pool.Reachable order.job.documents) (shop : Workshop MemoryStore) :
    (process order ticket worker shop.journaled).2.plain = (process order ticket worker shop).2 ∧
      WritesOnce ticket.item document
        (build worker.pool shop.archive document ticket.item).2.2
        (process order ticket worker shop.journaled).2.archive.store.batches
        worker.report shop.archive.store
        (process order ticket worker shop).1.report
        (process order ticket worker shop).2.archive.store := by
  have known : order.job.document? ticket.item.documentId = some document := by
    rw [ofDocument]
    exact Job.document?_of_mem valid member
  have sameBuilt :
      (build worker.pool shop.journaled.archive document ticket.item).2.2 =
        (build worker.pool shop.archive document ticket.item).2.2 :=
    (congrArg (·.2.2) (build_plain shop.journaled.archive worker.pool document ticket.item)).symm
  have processed := process_eq known worker shop
  have recorded := process_eq known worker shop.journaled
  rw [toStore, write_eq, build_memory] at processed
  rw [toStore, write_eq, sameBuilt] at recorded
  have carries := carries_build valid reachable member shop.archive ticket.item
  have carried := Destination.carried_entries carries (ticket.item.marker document)
  obtain ⟨received, isLost⟩ := Destination.deliver_memory shop.archive ticket.item carried
  have unread := batches_build shop.journaled.archive worker.pool document ticket.item
  have upserts := batches_deliver
    (build worker.pool shop.journaled.archive document ticket.item).2.1 ticket.item
    (documentsOf (build worker.pool shop.archive document ticket.item).2.2)
    (ticket.item.marker document)
  rw [unread] at upserts
  -- The journal only watches, so the run without it is the run that counts.
  refine ⟨?_, ?_⟩
  · have plain := runFor_plain order 2 { worker with phase := .building ticket } shop.journaled
    exact (congrArg Prod.snd plain).symm
  -- From here on it does not matter how the documents were built, only that each
  -- carries its id.
  generalize (build worker.pool shop.archive document ticket.item).2.2 = built at *
  rw [processed, recorded]
  constructor
  · rw [upserts]
    split <;> simp [Workshop.journaled]
  · exact upserts
  · exact carried
  · intro timesOut
    rw [received]
    exact MemoryStore.documents_receive_of_timesOut timesOut
  · intro arrives
    rw [received]
    exact MemoryStore.documents_receive arrives
  · intro path mtime fromPath arrives
    have marker : ticket.item.marker document = some (.make path mtime document) := by
      simp only [WorkItem.marker, fromPath]
    have taken := MemoryStore.documents_receive arrives
    rw [leaves, marker] at taken
    rw [received, marker]
    exact taken ▸ lookup_overlay_marker _ _ _
  · rw [WorkerReport.itemsOk_noteItem, leaves]
    simp only [← isLost, Bool.not_eq_true]
  · rw [WorkerReport.itemsFailed_noteItem, leaves]
    simp only [← isLost, Bool.not_eq_true]
  · rw [WorkerReport.partialDispatches_noteItem, leaves]
    simp only [← isLost]

/-- A folder with a file of one reading. -/
def FileTree.reading : FileTree :=
  [("in", .folder [("a.json", .ofJson (.array [.object
    [("name", .string "noon"), ("station", .string "kden"), ("temp", .ofNat 3),
      ("time", .ofNat 90)]]) 5)])]

/-- The document of the station that the reading is from. -/
def Json.station : Json :=
  .object
    [("data", .object [("noon", .object [("at", .ofNat 60), ("t", .ofNat 3)])]),
      ("id", .string "ST:KDEN")]

/-- A document and the marker of its file, which go to the store in one batch, and the
marker of a file that is not there any more. -/
theorem Worker.process_writes_once_stations :
    Job.stations.validate = .ok () ∧ IngestDocument.stations ∈ Job.stations.documents ∧
      ((process ⟨.stations, .toStore, {}⟩ ⟨0, .ofPath "in/a.json" 5 "stations"⟩ { index := 0 }
          (Workshop.journaled { archive := ⟨{}, .reading, 0⟩, queue := {} }) :
            Worker × Workshop (Journaled MemoryStore)).2.archive.store.batches =
          [[.station, (DataFileRecord.make "in/a.json" 5 .stations).toJson]] ∧
        (process ⟨.stations, .toStore, {}⟩ ⟨0, .ofPath "in/a.json" 5 "stations"⟩ { index := 0 }
          { archive := ⟨{}, .reading, 0⟩, queue := {} } : Worker × Workshop MemoryStore
          ).2.archive.store.documents =
          [("DF:north:nested_rows:stations:a.json",
            (DataFileRecord.make "in/a.json" 5 .stations).toJson), ("ST:KDEN", .station)]) ∧
      Keyed.lookup
        (process ⟨.stations, .toStore, {}⟩ ⟨0, .ofPath "in/a.json" 5 "stations"⟩ { index := 0 }
          { archive := ⟨{}, [], 0⟩, queue := {} } : Worker × Workshop MemoryStore
          ).2.archive.store.documents
        "DF:north:nested_rows:stations:a.json" =
          some (DataFileRecord.make "in/a.json" 5 .stations).toJson := by
  have valid : Job.stations.validate = .ok () := eq_ok_of_isOk (by decide +kernel)
  have member : IngestDocument.stations ∈ Job.stations.documents := List.mem_singleton_self _
  have written (files : FileTree) :=
    (@process_writes_once ⟨.stations, .toStore, {}⟩ valid rfl .stations member
      ⟨0, .ofPath "in/a.json" 5 "stations"⟩ rfl { index := 0 } .start
      { archive := ⟨{}, files, 0⟩, queue := {} }).2
  have id : (DataFileRecord.make "in/a.json" 5 .stations).id =
      "DF:north:nested_rows:stations:a.json" := by decide +kernel
  have leaves : leaves (.ofPath "in/a.json" 5 "stations") .stations
      (build {} (⟨{}, .reading, 0⟩ : Archive MemoryStore) .stations
        (.ofPath "in/a.json" 5 "stations")).2.2 =
      [("ST:KDEN", .station), ("DF:north:nested_rows:stations:a.json",
        (DataFileRecord.make "in/a.json" 5 .stations).toJson)] := by decide +kernel
  refine ⟨valid, member, ⟨?_, ?_⟩, ?_⟩
  · rw [(written .reading).batch, leaves]
    rfl
  · rw [(written .reading).landed fun timesOut => timesOut.2 rfl, leaves]
    decide +kernel
  · rw [← id]
    exact (written []).marked "in/a.json" 5 rfl fun timesOut => timesOut.2 rfl

end DocumentIngest
