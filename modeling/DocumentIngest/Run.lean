import DocumentIngest.Discovery
import DocumentIngest.Job.Loading
import DocumentIngest.Store.Memory
import DocumentIngest.Worker

/-!
# Runs

A run loads its job, finds out what is new, lets workers ingest it, and writes a
record of itself last.  A mistake in the settings or in the job ends the run
before anything is written; trouble with a single work item does not end it.
-/

namespace DocumentIngest

/-- How a run went. -/
structure RunSummary where
  jobId : String := ""
  loadJobId : String := ""
  itemsTotal : Nat := 0
  itemsOk : Nat := 0
  itemsFailed : Nat := 0
  itemsUnacknowledged : Nat := 0
  documentsWritten : Nat := 0
  partialDispatches : Nat := 0
  rowsOk : Nat := 0
  rowsSkipped : Nat := 0
  documentsFailed : Nat := 0
  workersStarted : Nat := 0
  workersFailed : Nat := 0
  elapsedMs : Nat := 0
deriving DecidableEq, Repr, Inhabited

namespace RunSummary

/-- Adds what a worker got through. -/
def addReport (summary : RunSummary) (report : WorkerReport) : RunSummary :=
  { summary with
    itemsOk := summary.itemsOk + report.itemsOk
    itemsFailed := summary.itemsFailed + report.itemsFailed
    documentsWritten := summary.documentsWritten + report.documentsWritten
    partialDispatches := summary.partialDispatches + report.partialDispatches
    rowsOk := summary.rowsOk + report.rowsOk
    rowsSkipped := summary.rowsSkipped + report.rowsSkipped
    documentsFailed := summary.documentsFailed + report.documentsFailed }

/-- Adds what came of a worker. -/
def addResult (summary : RunSummary) (result : Except Failure WorkerReport) : RunSummary :=
  match result with
  | .ok report => summary.addReport report
  | .error _ => { summary with workersFailed := summary.workersFailed + 1 }

end RunSummary

/-- What a run has to say when it is over. -/
structure RunReport where
  summary : RunSummary
  /-- The record that was written. -/
  record : LoadJobRecord
  /-- What went wrong on the way, in words. -/
  complaints : List String := []
deriving Repr

/-- The job of a run and the work that was found for it. -/
structure RunPlan where
  job : Job
  items : List WorkItem
deriving Repr

namespace Run

variable {σ : Type} [DocumentStore σ]

/-- What is known of the files of an ingest document.  There are no markers of
files that were ingested into files. -/
def knownFiles (destination : Destination) (archive : Archive σ) (documentId : String) :
    Archive σ × Except Failure (Keyed Int) :=
  match destination with
  | .toFiles _ => (archive, .ok [])
  | .toStore =>
      match DocumentStore.markers archive.store documentId with
      | (store, .error fault) =>
          ({ archive with store }, .error (.during
            ("💀 Could not read back what '" ++ documentId ++ "' already ingested")
            (.of (.store fault))))
      | (store, .ok records) => ({ archive with store }, .ok (Discovery.latestKnown records))

/-- The pattern for file names where none is given. -/
def anyName : String := "*"

/-- Which files are eligible for an ingest document. -/
def filterFor (settings : DiscoverySettings) (document : IngestDocument) : DiscoveryFilter :=
  ⟨document.fileMask.or settings.fileMask, settings.firstEpoch, settings.lastEpoch⟩

/-- The new files of an ingest document. -/
def discoverFiles (settings : DiscoverySettings) (destination : Destination) (archive : Archive σ)
    (document : IngestDocument) : Archive σ × Except Failure (List WorkItem) :=
  match document.inputDirectory.or settings.inputDirectory with
  | none => (archive, .ok [])
  | some directory =>
      let pattern := (document.filePattern.or settings.filePattern).getD anyName
      match Discovery.candidatesIn archive.files directory pattern with
      | .error failure => (archive, .error failure)
      | .ok candidates =>
          match knownFiles destination archive document.id with
          | (archive, .error failure) => (archive, .error failure)
          | (archive, .ok known) =>
              (archive, .ok ((Discovery.select candidates known (filterFor settings document)).map
                fun candidate => .ofPath candidate.path candidate.mtime document.id))

/-- The work of an ingest document. -/
def discover (settings : DiscoverySettings) (destination : Destination) (archive : Archive σ)
    (document : IngestDocument) : Archive σ × Except Failure (List WorkItem) :=
  if document.recordIds.isEmpty then discoverFiles settings destination archive document
  else (archive, .ok (WorkItem.ofIdentifiers document.recordIds document.id))

/-- The work of several ingest documents, one after another. -/
def discoverAll (settings : DiscoverySettings) (destination : Destination) (archive : Archive σ) :
    List IngestDocument → Archive σ × Except Failure (List WorkItem)
  | [] => (archive, .ok [])
  | document :: rest =>
      match discover settings destination archive document with
      | (archive, .error failure) => (archive, .error failure)
      | (archive, .ok items) =>
          match discoverAll settings destination archive rest with
          | (archive, found) => (archive, found.map (items ++ ·))

/-- Where a run sends its documents. -/
def destination (settings : Settings) : Destination :=
  .ofDirectory settings.outputDirectory

/-- Connects to the store. -/
def connect (settings : Settings) (archive : Archive σ) : Archive σ × Except Failure Unit :=
  match DocumentStore.connectWithin settings.runtime.connectRetries archive.store with
  | (store, result) =>
      ({ archive with store },
        attempting "💀 The supervisor could not reach the store, so nobody else will either"
          (result.mapError fun fault => .of (.store fault)))

/-- Loads the job of a run and checks it. -/
def loadJob (settings : Settings) (archive : Archive σ) : Archive σ × Except Failure Job :=
  match Job.load settings.job archive.files archive.store with
  | (store, .error failure) => ({ archive with store }, .error failure)
  | (store, .ok job) =>
      ({ archive with store },
        match job.validate with
        | .error fault => .error (.of (.setup fault))
        | .ok _ => .ok job)

/-- Everything that comes before the first worker.  It writes nothing. -/
def plan (settings : Settings) (archive : Archive σ) : Archive σ × Except Failure RunPlan :=
  match settings.validate with
  | .error fault => (archive, .error (.of (.setup fault)))
  | .ok _ =>
      match connect settings archive with
      | (archive, .error failure) => (archive, .error failure)
      | (archive, .ok _) =>
          match loadJob settings archive with
          | (archive, .error failure) => (archive, .error failure)
          | (archive, .ok job) =>
              match discoverAll settings.discovery (destination settings) archive job.documents with
              | (archive, items) => (archive, items.map fun items => ⟨job, items⟩)

/-- What the workers of a run are told. -/
def order (settings : Settings) (plan : RunPlan) : WorkOrder :=
  ⟨plan.job, destination settings, settings.runtime⟩

/-- What came of a worker, in words, as far as it went wrong. -/
def complaintsOf (index : Nat) (result : Except Failure WorkerReport) : List String :=
  match result with
  | .error failure => ["💀 worker " ++ toString index ++ " gave up: " ++ failure.message]
  | .ok report =>
      report.broken.map fun (label, failure) =>
        "💀 worker " ++ toString index ++ ": '" ++ label ++ "' failed: " ++ failure.message

/-- The summary of a run. -/
def summarize (plan : RunPlan) (start : Int) (queue : WorkQueue)
    (results : List (Except Failure WorkerReport)) : RunSummary :=
  results.foldl RunSummary.addResult
    { jobId := plan.job.id
      loadJobId := LoadJobRecord.idFor plan.job.subset plan.job.id start
      itemsTotal := plan.items.length
      itemsUnacknowledged := queue.unacknowledged
      workersStarted := results.length }

/-- The record of a run. -/
def recordOf (settings : Settings) (plan : RunPlan) (start stop : Int) (summary : RunSummary) :
    LoadJobRecord :=
  { id := summary.loadJobId
    recordType := LoadJobRecord.type
    subset := plan.job.subset
    jobId := plan.job.id
    lineage := settings.job.lineage
    ingestDocuments := plan.job.documents.map IngestDocument.id
    runStart := start
    runEnd := stop
    itemsTotal := summary.itemsTotal
    itemsOk := summary.itemsOk
    itemsFailed := summary.itemsFailed
    itemsUnacknowledged := summary.itemsUnacknowledged
    documentsWritten := summary.documentsWritten
    partialDispatches := summary.partialDispatches
    workersStarted := summary.workersStarted
    workersFailed := summary.workersFailed }

/-- The second that a time in milliseconds falls into. -/
def secondOf (time : Int) : Int :=
  time / 1000

/-- Closes a run whose crew is done: counts, and writes the record. -/
def finish (settings : Settings) (plan : RunPlan) (start : Int) (crew : Crew σ) :
    Archive σ × Except Failure RunReport :=
  let archive := crew.shop.archive
  let results := crew.workers.map (Worker.result (order settings plan))
  let summary := summarize plan start crew.shop.queue results
  if summary.workersFailed = summary.workersStarted then
    (archive, .error (.plain
      ("💀 all " ++ toString summary.workersStarted ++
        " worker(s) failed to start. Nothing was ingested.")))
  else
    let record := recordOf settings plan start (secondOf archive.now) summary
    match (destination settings).recordRun archive record with
    | (archive, .error failure) =>
        (archive, .error
          (failure.during "💀 The run finished but its load-job record was not written"))
    | (archive, .ok _) =>
        (archive, .ok
          { summary, record
            complaints := (results.zipIdx.map fun (result, index) =>
              complaintsOf index result).flatten })

/-- The crew of a run before its first step. -/
def crewFor (settings : Settings) (plan : RunPlan) (archive : Archive σ) : Crew σ :=
  .assemble settings.runtime.workerCount { archive, queue := .ofItems plan.items }

/-- A run over an archive whose crew is led through its work in some way. -/
def performWith (lead : WorkOrder → Crew σ → Crew σ) (settings : Settings) (archive : Archive σ) :
    Archive σ × Except Failure RunReport :=
  let start := secondOf archive.now
  match plan settings archive with
  | (archive, .error failure) => (archive, .error failure)
  | (archive, .ok plan) =>
      finish settings plan start (lead (order settings plan) (crewFor settings plan archive))

/-- A run over an archive. -/
def perform (settings : Settings) (archive : Archive σ) : Archive σ × Except Failure RunReport :=
  performWith Crew.run settings archive

/-- A run over files and over the store that the settings choose, on a server if
it is a cluster. -/
def ingest {τ : Type} [WebServer τ] (settings : Settings) (server : τ) (pageLimit : Nat)
    (files : FileTree) (now : Int) : FileTree × Except Failure RunReport :=
  let attempt := "💀 The ingest run did not complete"
  match settings.store with
  | .inMemory =>
      match perform settings (⟨{}, files, now⟩ : Archive MemoryStore) with
      | (archive, result) => (archive.files, attempting attempt result)
  | .elasticsearch cluster =>
      match perform settings
          (⟨{ settings := cluster, pageLimit, server }, files, now⟩ :
            Archive (ElasticsearchStore τ)) with
      | (archive, result) => (archive.files, attempting attempt result)

end Run

end DocumentIngest
