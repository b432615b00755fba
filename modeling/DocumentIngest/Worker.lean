import DocumentIngest.Assembly.Pool
import DocumentIngest.Dataset.Opening
import DocumentIngest.Dataset.StoredRecord
import DocumentIngest.Delivery
import DocumentIngest.Queue
import DocumentIngest.Settings

/-!
# Workers

A worker connects to the store, takes work items from the queue until there are
none, and acknowledges each of them, whatever became of it.  It is a machine: a
step connects, looks into the queue, enters a ticket in the ledger, reads and
builds an item, writes it, or acknowledges it.  Several workers may take their
steps in any order; they share the store, the files and the queue, and nothing
else.
-/

namespace DocumentIngest

/-- What workers share. -/
structure Workshop (σ : Type) where
  archive : Archive σ
  queue : WorkQueue
  /-- How many work items are done. -/
  done : Nat := 0

/-- What a worker got through. -/
structure WorkerReport where
  worker : Nat := 0
  itemsOk : Nat := 0
  itemsFailed : Nat := 0
  documentsWritten : Nat := 0
  partialDispatches : Nat := 0
  rowsOk : Nat := 0
  rowsSkipped : Nat := 0
  documentsFailed : Nat := 0
  buildersCreated : Nat := 0
  /-- The work items that could not be built, by what names them, and why. -/
  broken : List (String × Failure) := []
deriving Repr

/-- What all workers of a run are told. -/
structure WorkOrder where
  job : Job
  destination : Destination
  runtime : RuntimeSettings
deriving Repr

/-- Where a worker stands. -/
inductive WorkerPhase where
  /-- So many attempts to connect have failed. -/
  | connecting (attempts : Nat)
  /-- The queue was found empty so many times in a row. -/
  | polling (emptyPolls : Nat)
  /-- A ticket is in hand that the ledger does not know yet. -/
  | holding (ticket : Ticket)
  | building (ticket : Ticket)
  | writing (ticket : Ticket) (document : IngestDocument) (built : Except Failure BuildOutcome)
  | acknowledging (ticket : Ticket)
  | finished
  | gaveUp (fault : StoreError)

/-- A worker. -/
structure Worker where
  index : Nat
  phase : WorkerPhase := .connecting 0
  pool : AssemblerPool := {}
  report : WorkerReport := {}

namespace WorkerReport

/-- Counts a work item that went well. -/
def countOk (report : WorkerReport) : WorkerReport :=
  { report with itemsOk := report.itemsOk + 1 }

/-- Counts a work item that did not. -/
def countFailed (report : WorkerReport) : WorkerReport :=
  { report with itemsFailed := report.itemsFailed + 1 }

/-- Counts a write that failed. -/
def countPartial (report : WorkerReport) : WorkerReport :=
  { report with partialDispatches := report.partialDispatches + 1 }

/-- Notes a work item that could not be built. -/
def noteBroken (report : WorkerReport) (item : WorkItem) (failure : Failure) : WorkerReport :=
  { report.countFailed with broken := report.broken ++ [(item.label, failure)] }

/-- Adds what became of rows. -/
def addRows (report : WorkerReport) (counts : BuildCounts) : WorkerReport :=
  { report with
    rowsOk := report.rowsOk + counts.rowsOk
    rowsSkipped := report.rowsSkipped + counts.rowsSkipped
    documentsFailed := report.documentsFailed + counts.documentsFailed }

/-- Counts what happened to the documents of a work item. -/
def addOutcome (report : WorkerReport) : Delivery → WorkerReport
  | .written count =>
      { report.countOk with documentsWritten := report.documentsWritten + count }
  | .empty => report.countOk
  | .lost _ => report.countPartial.countFailed

end WorkerReport

namespace Worker

variable {σ : Type} [DocumentStore σ]

/-- Whether a worker takes no more steps. -/
def isDone (worker : Worker) : Bool :=
  match worker.phase with
  | .finished => true
  | .gaveUp _ => true
  | _ => false

/-- The dataset of a work item. -/
def openDataset (archive : Archive σ) (item : WorkItem) (document : IngestDocument) :
    Archive σ × Except Failure Dataset :=
  match item.source with
  | .path path _ => (archive, Dataset.ofFile path (archive.files.read? path))
  | .identifier id =>
      match DocumentStore.fetch archive.store id with
      | (store, .error fault) =>
          ({ archive with store }, .error (.during
            ("💀 could not fetch stored record '" ++ id ++ "'") (.of (.store fault))))
      | (store, .ok record) =>
          ({ archive with store },
            StoredRecord.dataset record (StoredRecord.rowsField document.parameters))

/-- The failure of a work item whose build broke off. -/
def brokenOff (item : WorkItem) : Failure :=
  .plain ("💀 the build of '" ++ item.label ++ "' panicked")

/-- Builds a dataset with an assembler that is out of the pool meanwhile.  It does not
come back from a build that breaks off. -/
def assemble (pool : AssemblerPool) (document : IngestDocument) (item : WorkItem)
    (dataset : Dataset) : AssemblerPool × Except Failure BuildOutcome :=
  match pool.takeOut document with
  | (pool, .error fault) => (pool, .error (.of (.setup fault)))
  | (pool, .ok assembler) =>
      if assembler.breaksOff document item dataset then (pool, .error (brokenOff item))
      else
        (pool.putBack assembler,
          attempting ("💀 building '" ++ item.label ++ "' failed")
            (assembler.build document item dataset))

/-- Reads and builds a work item. -/
def build (pool : AssemblerPool) (archive : Archive σ) (document : IngestDocument)
    (item : WorkItem) : AssemblerPool × Archive σ × Except Failure BuildOutcome :=
  match openDataset archive item document with
  | (archive, .error failure) => (pool, archive, .error failure)
  | (archive, .ok dataset) =>
      match assemble pool document item dataset with
      | (pool, built) => (pool, archive, built)

/-- Writes what was built.  An item that could not be built is marked as consumed
all the same: it stays broken until its file changes. -/
def write (destination : Destination) (report : WorkerReport) (archive : Archive σ)
    (document : IngestDocument) (item : WorkItem) (built : Except Failure BuildOutcome) :
    WorkerReport × Archive σ :=
  let marker := item.marker document
  match built with
  | .error failure =>
      match destination.markConsumed archive marker with
      | (archive, .ok _) => (report.noteBroken item failure, archive)
      | (archive, .error _) => (report.countPartial.noteBroken item failure, archive)
  | .ok outcome =>
      match destination.deliver archive item outcome.documents marker with
      | (archive, delivered) =>
          ((report.addRows outcome.counts).addOutcome delivered, archive)

/-- One step of a worker. -/
def step (order : WorkOrder) (worker : Worker) (shop : Workshop σ) : Worker × Workshop σ :=
  match worker.phase with
  | .connecting attempts =>
      match DocumentStore.connect shop.archive.store with
      | (store, result) =>
          let shop := { shop with archive := { shop.archive with store } }
          match result with
          | .ok _ => ({ worker with phase := .polling 0 }, shop)
          | .error fault =>
              if attempts < order.runtime.connectRetries then
                ({ worker with phase := .connecting (attempts + 1) }, shop)
              else ({ worker with phase := .gaveUp fault }, shop)
  | .polling emptyPolls =>
      match shop.queue.take with
      | (queue, polled) =>
          let shop := { shop with queue }
          let leave : Worker :=
            { worker with
              phase := .finished
              report := { worker.report with buildersCreated := worker.pool.created } }
          match polled with
          | .ticket ticket => ({ worker with phase := .holding ticket }, shop)
          | .drained => (leave, shop)
          | .empty =>
              if order.runtime.drainRetries ≤ emptyPolls then (leave, shop)
              else ({ worker with phase := .polling (emptyPolls + 1) }, shop)
  | .holding ticket =>
      ({ worker with phase := .building ticket },
        { shop with queue := shop.queue.enter ticket.number })
  | .building ticket =>
      match order.job.document? ticket.item.documentId with
      | none =>
          ({ worker with
              phase := .acknowledging ticket
              report := worker.report.noteBroken ticket.item
                (.of (.setup (.unknownIngestDocument ticket.item.documentId))) }, shop)
      | some document =>
          match build worker.pool shop.archive document ticket.item with
          | (pool, archive, built) =>
              ({ worker with phase := .writing ticket document built, pool },
                { shop with archive })
  | .writing ticket document built =>
      match write order.destination worker.report shop.archive document ticket.item built with
      | (report, archive) =>
          ({ worker with phase := .acknowledging ticket, report }, { shop with archive })
  | .acknowledging ticket =>
      ({ worker with phase := .polling 0 },
        { shop with
          queue := shop.queue.acknowledge ticket.number
          done := shop.done + 1 })
  | .finished => (worker, shop)
  | .gaveUp _ => (worker, shop)

/-- Lets a worker take steps until it is done, at most so many. -/
def runFor (order : WorkOrder) : Nat → Worker → Workshop σ → Worker × Workshop σ
  | 0, worker, shop => (worker, shop)
  | steps + 1, worker, shop =>
      if worker.isDone then (worker, shop)
      else
        match step order worker shop with
        | (worker, shop) => runFor order steps worker shop

/-- More steps than a worker takes that works alone: its attempts to connect, five
for each ticket, and its looks into the empty queue. -/
def enoughSteps (order : WorkOrder) (queue : WorkQueue) : Nat :=
  order.runtime.connectRetries + 5 * queue.waiting.length + order.runtime.drainRetries + 3

/-- Lets a worker work alone until it is done. -/
def run (order : WorkOrder) (worker : Worker) (shop : Workshop σ) : Worker × Workshop σ :=
  runFor order (enoughSteps order shop.queue) worker shop

/-- What came of a worker: its report, or why it gave up. -/
def result (order : WorkOrder) (worker : Worker) : Except Failure WorkerReport :=
  match worker.phase with
  | .gaveUp fault =>
      .error (.during
        ("💀 worker " ++ toString worker.index ++ " could not reach the store after " ++
          toString (order.runtime.connectRetries + 1) ++ " attempts")
        (.of (.store fault)))
  | _ => .ok { worker.report with worker := worker.index }

end Worker

/-- Workers and what they share. -/
structure Crew (σ : Type) where
  workers : List Worker
  shop : Workshop σ

namespace Crew

variable {σ : Type} [DocumentStore σ]

/-- So many workers that have not started. -/
def assemble (count : Nat) (shop : Workshop σ) : Crew σ :=
  ⟨(List.range count).map fun index => { index }, shop⟩

/-- One step of the worker at a position. -/
def step (order : WorkOrder) (crew : Crew σ) (position : Nat) : Crew σ :=
  match crew.workers[position]? with
  | none => crew
  | some worker =>
      match worker.step order crew.shop with
      | (worker, shop) => ⟨crew.workers.set position worker, shop⟩

/-- Steps of the workers at some positions, one after another. -/
def follow (order : WorkOrder) (crew : Crew σ) (schedule : List Nat) : Crew σ :=
  schedule.foldl (step order) crew

/-- Whether every worker is done. -/
def isDone (crew : Crew σ) : Bool :=
  crew.workers.all Worker.isDone

/-- Lets workers work one after another, each until it is done. -/
def runInTurn (order : WorkOrder) : List Worker → Workshop σ → Crew σ
  | [], shop => ⟨[], shop⟩
  | worker :: rest, shop =>
      match worker.run order shop with
      | (worker, shop) =>
          let crew := runInTurn order rest shop
          ⟨worker :: crew.workers, crew.shop⟩

/-- Lets the workers work until all are done. -/
def run (order : WorkOrder) (crew : Crew σ) : Crew σ :=
  runInTurn order crew.workers crew.shop

end Crew

end DocumentIngest
