import DocumentIngest.Proofs.CrewAccounts
import DocumentIngest.Proofs.FileTreeWriting
import DocumentIngest.Proofs.ValidatedJobs
import DocumentIngest.Run
import Mathlib.Algebra.Order.BigOperators.Group.List
import Mathlib.Algebra.Order.Group.Nat

/-!
# The accounts of a run

The summary of a run adds up what its workers report, and the record of the run
says what the summary says.  Workers that never reached the store report nothing,
but they also did nothing.  So the accounts of the crew are those of the run, in
whatever order the workers took their steps.
-/

namespace DocumentIngest

namespace RunSummary

/-- What an account of the reports comes to for what came of a worker. -/
def countOf (account : WorkerReport → Nat) (result : Except Failure WorkerReport) : Nat :=
  match result with
  | .ok report => account report
  | .error _ => 0

/-- A field that adds up an account of the reports. -/
theorem foldl_addResult {field : RunSummary → Nat} {account : WorkerReport → Nat}
    (adds : ∀ summary report, field (summary.addReport report) = field summary + account report)
    (ignores : ∀ summary fault, field (summary.addResult (.error fault)) = field summary)
    (results : List (Except Failure WorkerReport)) (summary : RunSummary) :
    field (results.foldl addResult summary) =
      field summary + (results.map (countOf account)).sum := by
  induction results generalizing summary with
  | nil => rfl
  | cons result rest ih =>
      rw [List.foldl_cons, ih, List.map_cons, List.sum_cons, ← Nat.add_assoc]
      congr 1
      cases result with
      | ok report => exact adds summary report
      | error fault => exact ignores summary fault

theorem foldl_addResult_of_same {α : Type} {field : RunSummary → α}
    (same : ∀ summary result, field (summary.addResult result) = field summary)
    (results : List (Except Failure WorkerReport)) (summary : RunSummary) :
    field (results.foldl addResult summary) = field summary := by
  induction results generalizing summary with
  | nil => rfl
  | cons result rest ih => rw [List.foldl_cons, ih, same]

theorem workersFailed_foldl (results : List (Except Failure WorkerReport))
    (summary : RunSummary) :
    (results.foldl addResult summary).workersFailed =
      summary.workersFailed + results.countP fun result => !result.isOk := by
  induction results generalizing summary with
  | nil => rfl
  | cons result rest ih =>
      rw [List.foldl_cons, ih, List.countP_cons]
      cases result with
      | ok report => rfl
      | error failure =>
          simp only [addResult, Except.isOk, Except.toBool, Bool.not_false, if_true]
          omega

/-- Whether a stored record carries the counts of a summary. -/
structure IsCarriedBy (summary : RunSummary) (record : Json) : Prop where
  itemsTotal : record.field? "items_total" = some (.ofNat summary.itemsTotal)
  itemsOk : record.field? "items_ok" = some (.ofNat summary.itemsOk)
  itemsFailed : record.field? "items_failed" = some (.ofNat summary.itemsFailed)
  itemsUnacknowledged :
    record.field? "items_unacknowledged" = some (.ofNat summary.itemsUnacknowledged)
  documentsWritten : record.field? "documents_written" = some (.ofNat summary.documentsWritten)
  partialDispatches :
    record.field? "partial_dispatches" = some (.ofNat summary.partialDispatches)
  workersStarted : record.field? "workers_started" = some (.ofNat summary.workersStarted)
  workersFailed : record.field? "workers_failed" = some (.ofNat summary.workersFailed)

end RunSummary

namespace LoadJobRecord

@[simp]
theorem textField?_id_toJson (record : LoadJobRecord) :
    record.toJson.textField? "id" = some record.id := by
  simp [toJson, Json.ofFields, Json.textField?, Json.field?, Keyed.ofPairs, Keyed.lookup_insert,
    Json.asText?]

end LoadJobRecord

namespace Crew

variable {σ : Type} [DocumentStore σ] {order : WorkOrder} {total : Nat} {crew : Crew σ}
  {landed : List (WorkItem × DocumentMap)}

omit [DocumentStore σ] in
/-- The results of workers that are done tell everything their reports hold. -/
theorem InBalance.counts (balanced : crew.InBalance total landed) (done : crew.isDone = true)
    {account : WorkerReport → Nat} (nothing : account {} = 0)
    (anyIndex : ∀ report index, account { report with worker := index } = account report) :
    ((crew.workers.map (Worker.result order)).map (RunSummary.countOf account)).sum =
      (crew.workers.map fun worker => account worker.report).sum := by
  rw [List.map_map]
  congr 1
  apply List.map_congr_left
  intro worker member
  have workerDone := List.all_eq_true.mp done worker member
  have outside := balanced.outside worker member
  obtain ⟨index, phase, pool, report⟩ := worker
  cases phase with
  | finished => exact anyIndex report index
  | gaveUp fault => exact (nothing ▸ congrArg account (outside rfl)).symm
  | connecting attempts => simp [Worker.isDone] at workerDone
  | polling emptyPolls => simp [Worker.isDone] at workerDone
  | holding ticket => simp [Worker.isDone] at workerDone
  | building ticket => simp [Worker.isDone] at workerDone
  | writing ticket document built => simp [Worker.isDone] at workerDone
  | acknowledging ticket => simp [Worker.isDone] at workerDone

omit [DocumentStore σ] in
/-- If not all workers failed, one of them has left the queue. -/
theorem exists_hasLeft (done : crew.isDone = true) {summary : RunSummary}
    (fresh : summary.workersFailed = 0)
    (notAll : ((crew.workers.map (Worker.result order)).foldl RunSummary.addResult
      summary).workersFailed ≠ (crew.workers.map (Worker.result order)).length) :
    ∃ worker ∈ crew.workers, worker.hasLeft = true := by
  -- A worker that is done and has not left gave up, and counts as failed.
  by_cases someLeft : ∃ worker ∈ crew.workers, worker.hasLeft = true
  · exact someLeft
  · have failed : ∀ result ∈ crew.workers.map (Worker.result order), (!result.isOk) = true := by
      intro result member
      obtain ⟨worker, workerMember, rfl⟩ := List.mem_map.mp member
      have workerDone := List.all_eq_true.mp done worker workerMember
      have stayed : worker.hasLeft ≠ true := fun hasLeft => someLeft ⟨worker, workerMember, hasLeft⟩
      obtain ⟨index, phase, pool, report⟩ := worker
      cases phase with
      | gaveUp fault => rfl
      | finished => simp [Worker.hasLeft] at stayed
      | _ => simp [Worker.isDone] at workerDone
    rw [RunSummary.workersFailed_foldl, fresh, Nat.zero_add,
      List.countP_eq_length.mpr failed] at notAll
    exact absurd rfl notAll

end Crew

namespace Run

/-- Whether the record of a run stands where the run sends its documents, under its
own id. -/
def IsOnRecord (destination : Destination) (archive : Archive MemoryStore)
    (record : LoadJobRecord) : Prop :=
  match destination with
  | .toStore => Keyed.lookup archive.store.documents record.id = some record.toJson
  | .toFiles directory =>
      archive.files.read? (Path.join directory (Destination.outputName record.id)) =
        some record.toJson.pretty.toUTF8.toList

theorem isOnRecord_of_recordRun {destination : Destination} {archive final : Archive MemoryStore}
    {record : LoadJobRecord} (records : destination.recordRun archive record = (final, .ok ())) :
    IsOnRecord destination final record := by
  cases destination with
  | toStore =>
      have carried : ∀ entry ∈ [(record.id, record.toJson)],
          entry.2.textField? "id" = some entry.1 := by
        intro entry member
        rw [List.mem_singleton.mp member]
        exact record.textField?_id_toJson
      simp only [Destination.recordRun, Destination.sendBatch, DocumentStore.upsert] at records
      rcases archive.store.upsert_of_carried carried with ⟨_, taken⟩ | ⟨timeouts, _, refused⟩
      · rw [List.map_cons, List.map_nil] at taken
        rw [taken] at records
        cases records
        exact Keyed.lookup_insert_self _ _ _
      · rw [List.map_cons, List.map_nil] at refused
        rw [refused] at records
        simp [Except.map, Except.mapError] at records
  | toFiles directory =>
      simp only [Destination.recordRun, Destination.writeFile] at records
      split at records
      · simp at records
      · split at records
        · simp at records
        · next written =>
            cases records
            exact FileTree.read?_write? written

variable {σ : Type} [DocumentStore σ]

/-- A run that ends well has counted its workers' results, not all of them failures,
and written the record of these counts. -/
theorem finish_eq_ok {settings : Settings} {plan : RunPlan} {start : Int} {crew : Crew σ}
    {final : Archive σ} {report : RunReport}
    (finishes : finish settings plan start crew = (final, .ok report)) :
    report.summary = summarize plan start crew.shop.queue
        (crew.workers.map (Worker.result (order settings plan))) ∧
      report.summary.workersFailed ≠ report.summary.workersStarted ∧
        (∃ stop, report.record = recordOf settings plan start stop report.summary) ∧
          (destination settings).recordRun crew.shop.archive report.record = (final, .ok ()) := by
  unfold finish at finishes
  dsimp only at finishes
  split at finishes
  · simp at finishes
  next notAll =>
  split at finishes
  · simp at finishes
  next archive recorded =>
  cases finishes
  exact ⟨rfl, notAll, ⟨_, rfl⟩, recorded⟩

theorem isCarriedBy_recordOf (settings : Settings) (plan : RunPlan) (start stop : Int)
    (summary : RunSummary) :
    summary.IsCarriedBy (recordOf settings plan start stop summary).toJson := by
  constructor <;>
    simp [recordOf, LoadJobRecord.toJson, Json.ofFields, Json.field?, Keyed.ofPairs,
      Keyed.lookup_insert]

/-- What the executable run does is what a run does whose workers follow some
schedule that leads all of them to the end. -/
theorem exists_schedule_perform {settings : Settings} {archive planned : Archive σ}
    {plan : RunPlan} (planning : Run.plan settings archive = (planned, .ok plan)) :
    ∃ schedule,
      ((crewFor settings plan planned).follow (order settings plan) schedule).isDone = true ∧
        perform settings archive =
          performWith (fun order crew => crew.follow order schedule) settings archive := by
  obtain ⟨schedule, runs, done⟩ := Crew.exists_schedule_run (order settings plan)
    settings.runtime.workerCount { archive := planned, queue := .ofItems plan.items }
  refine ⟨schedule, done, ?_⟩
  simp only [perform, performWith, planning]
  exact congrArg (finish settings plan _) runs

/-- What is known before the results are added up stays as it is. -/
theorem fixed_summarize (plan : RunPlan) (start : Int) (queue : WorkQueue)
    (results : List (Except Failure WorkerReport)) :
    (summarize plan start queue results).itemsTotal = plan.items.length ∧
      (summarize plan start queue results).itemsUnacknowledged = queue.unacknowledged ∧
        (summarize plan start queue results).workersStarted = results.length ∧
          (summarize plan start queue results).loadJobId =
            LoadJobRecord.idFor plan.job.subset plan.job.id start := by
  refine ⟨?_, ?_, ?_, ?_⟩ <;>
    exact RunSummary.foldl_addResult_of_same (fun _ result => by cases result <;> rfl) results _

omit [DocumentStore σ] in
/-- A field of the summary that adds up an account of the reports comes to what the
workers have in their reports. -/
theorem summarize_eq_sum {order : WorkOrder} {crew : Crew σ} {total : Nat}
    {landed : List (WorkItem × DocumentMap)} (balanced : crew.InBalance total landed)
    (done : crew.isDone = true) {field : RunSummary → Nat} {account : WorkerReport → Nat}
    (adds : ∀ summary report, field (summary.addReport report) = field summary + account report)
    (ignores : ∀ summary fault, field (summary.addResult (.error fault)) = field summary)
    (nothing : account {} = 0)
    (anyIndex : ∀ report index, account { report with worker := index } = account report)
    (plan : RunPlan) (start : Int)
    (fresh : ∀ jobId loadJobId items unacknowledged started,
      field ⟨jobId, loadJobId, items, 0, 0, unacknowledged, 0, 0, 0, 0, 0, started, 0, 0⟩ = 0) :
    field (summarize plan start crew.shop.queue (crew.workers.map (Worker.result order))) =
      (crew.workers.map fun worker => account worker.report).sum := by
  rw [summarize, RunSummary.foldl_addResult adds ignores, fresh, Nat.zero_add]
  exact balanced.counts done nothing anyIndex

end Run

/-- The accounts of a run that ends well, with its workers following any schedule
that leads all of them to the end: every work item is counted once, none is left
unacknowledged, failed writes are failed items, the documents counted are those
that landed, and the record of the run stands where it belongs with these counts. -/
theorem Run.accounts_settled {settings : Settings} {archive planned final : Archive MemoryStore}
    {plan : RunPlan} {report : RunReport} (schedule : List Nat)
    (planning : Run.plan settings archive = (planned, .ok plan))
    (complete :
      ((crewFor settings plan planned).follow (order settings plan) schedule).isDone = true)
    (returns : performWith (fun order crew => crew.follow order schedule) settings archive =
      (final, .ok report)) :
    report.summary.itemsOk + report.summary.itemsFailed = report.summary.itemsTotal ∧
      report.summary.itemsTotal = plan.items.length ∧
      report.summary.itemsUnacknowledged = 0 ∧
      report.summary.partialDispatches ≤ report.summary.itemsFailed ∧
      report.summary.documentsWritten =
        (((crewFor settings plan planned).landings (order settings plan) schedule).map
          fun landing => landing.2.length).sum ∧
      report.record.id = report.summary.loadJobId ∧
      IsOnRecord (destination settings) final report.record ∧
      report.summary.IsCarriedBy report.record.toJson := by
  -- The run has counted, and the crew has kept its accounts whatever the schedule.
  simp only [performWith, planning] at returns
  obtain ⟨summarized, notAll, ⟨stop, recorded⟩, records⟩ := finish_eq_ok returns
  have balanced := Crew.inBalance_follow (order settings plan) settings.runtime.workerCount
    planned plan.items schedule
  have crew : crewFor settings plan planned = Crew.assemble settings.runtime.workerCount
      { archive := planned, queue := .ofItems plan.items } := rfl
  rw [← crew] at balanced
  generalize (crewFor settings plan planned).follow (order settings plan) schedule = done at *
  obtain ⟨total, unacknowledged, started, loadJobId⟩ := fixed_summarize plan
    (secondOf archive.now) done.shop.queue (done.workers.map (Worker.result (order settings plan)))
  rw [← summarized] at total unacknowledged started loadJobId
  have someLeft : ∃ worker ∈ done.workers, worker.hasLeft = true := by
    rw [started, summarized] at notAll
    exact Crew.exists_hasLeft complete rfl notAll
  -- One worker has left, so nothing waits, and the sums of the summary are those of
  -- the crew.
  obtain ⟨nothingLeft, counted⟩ := balanced.settled complete someLeft
  have itemsOk : report.summary.itemsOk =
      (done.workers.map fun worker => worker.report.itemsOk).sum := by
    rw [summarized]
    exact summarize_eq_sum balanced complete (fun _ _ => rfl) (fun _ _ => rfl) rfl
      (fun _ _ => rfl) plan _ (fun _ _ _ _ _ => rfl)
  have itemsFailed : report.summary.itemsFailed =
      (done.workers.map fun worker => worker.report.itemsFailed).sum := by
    rw [summarized]
    exact summarize_eq_sum balanced complete (fun _ _ => rfl) (fun _ _ => rfl) rfl
      (fun _ _ => rfl) plan _ (fun _ _ _ _ _ => rfl)
  have partialDispatches : report.summary.partialDispatches =
      (done.workers.map fun worker => worker.report.partialDispatches).sum := by
    rw [summarized]
    exact summarize_eq_sum balanced complete (fun _ _ => rfl) (fun _ _ => rfl) rfl
      (fun _ _ => rfl) plan _ (fun _ _ _ _ _ => rfl)
  have documentsWritten : report.summary.documentsWritten =
      (done.workers.map fun worker => worker.report.documentsWritten).sum := by
    rw [summarized]
    exact summarize_eq_sum balanced complete (fun _ _ => rfl) (fun _ _ => rfl) rfl
      (fun _ _ => rfl) plan _ (fun _ _ _ _ _ => rfl)
  refine ⟨?_, total, ?_, ?_, ?_, ?_, ?_, ?_⟩
  · rw [itemsOk, itemsFailed, total]
    exact counted
  · rw [unacknowledged]
    exact nothingLeft
  · rw [partialDispatches, itemsFailed]
    exact List.sum_le_sum balanced.partialDispatches
  · rw [documentsWritten]
    exact balanced.written
  · rw [recorded]
    rfl
  · exact isOnRecord_of_recordRun records
  · rw [recorded]
    exact isCarriedBy_recordOf settings plan _ stop report.summary

/-- A store that holds a job, its ingest document, and one of two stored records that
the ingest document names. -/
def MemoryStore.daily : MemoryStore :=
  { documents :=
      [("JOB:daily", .ofFields [("ingest_document_ids", .array [.string "stations"])]),
        ("raw", .ofFields
          [("data", .array [.ofFields
            [("name", .string "noon"), ("station", .string "a"), ("temp", .ofNat 3)]])]),
        ("stations", { IngestDocument.stations with recordIds := ["raw", "gone"] }.toJson)] }

/-- Two workers on that job. -/
def Settings.daily : Settings :=
  { runtime := { workerCount := 2 }, job := { id := some "daily" } }

/-- A tree with the file of a job in one folder and a file of one row in another. -/
def FileTree.daily : FileTree :=
  [("data", .folder
      [("stations", .folder
        [("a.json", .ofJson (.array [.object [("k", .string "noon")]]) 5000)])]),
    ("etc", .folder
      [("daily.json", .ofJson (.object
        [("id", .string "daily"),
          ("ingest_documents", .array
            [.object
              [("builder_type", .string "row_per_document"), ("id", .string "files"),
                ("template", .object [("id", .string "*k")])]])]) 1000)])]

/-- Two workers on that job, which write to a third folder.  All paths are absolute. -/
def Settings.directory : Settings :=
  { runtime := { workerCount := 2 }
    job := { specFile := some "/etc/daily.json" }
    discovery := { inputDirectory := some "/data/stations" }
    outputDirectory := some "/data/out" }

/-- Whether a run over some items ends well, with a schedule that leads its workers to
the end. -/
def Run.endsWell (settings : Settings) (archive : Archive MemoryStore) (schedule : List Nat) :
    Bool :=
  match Run.plan settings archive with
  | (planned, .ok plan) =>
      let crew := (crewFor settings plan planned).follow (order settings plan) schedule
      !plan.items.isEmpty && crew.isDone &&
        (finish settings plan (secondOf archive.now) crew).2.isOk
  | (_, .error _) => false

theorem Run.exists_of_endsWell {settings : Settings} {archive : Archive MemoryStore}
    {schedule : List Nat} (ends : endsWell settings archive schedule = true) :
    ∃ planned plan final report, Run.plan settings archive = (planned, .ok plan) ∧
      plan.items ≠ [] ∧
      ((crewFor settings plan planned).follow (order settings plan) schedule).isDone = true ∧
      performWith (fun order crew => crew.follow order schedule) settings archive =
        (final, .ok report) := by
  rw [endsWell] at ends
  split at ends
  · next planned plan planning =>
      simp only [Bool.and_eq_true, Bool.not_eq_true', List.isEmpty_eq_false_iff] at ends
      obtain ⟨⟨someItems, done⟩, finishes⟩ := ends
      rcases finished : finish settings plan (secondOf archive.now)
        ((crewFor settings plan planned).follow (order settings plan) schedule) with
        ⟨final, failure | report⟩
      · rw [finished] at finishes
        cases finishes
      · refine ⟨planned, plan, final, report, planning, someItems, done, ?_⟩
        simp only [performWith, planning, finished]
  · exact absurd ends Bool.false_ne_true

/-- Two runs, one that takes records from the store and one that takes a file. -/
theorem Run.accounts_settled_daily :
    (∃ planned plan final report,
      Run.plan .daily (⟨.daily, [], 0⟩ : Archive MemoryStore) = (planned, .ok plan) ∧
        plan.items ≠ [] ∧
        ((crewFor .daily plan planned).follow (order .daily plan)
          [0, 1, 0, 1, 1, 0, 0, 1, 1, 0, 1, 0, 0, 1]).isDone = true ∧
        performWith
            (fun order crew => crew.follow order [0, 1, 0, 1, 1, 0, 0, 1, 1, 0, 1, 0, 0, 1])
            .daily (⟨.daily, [], 0⟩ : Archive MemoryStore) = (final, .ok report) ∧
        report.summary.itemsOk + report.summary.itemsFailed = report.summary.itemsTotal) ∧
    ∃ planned plan final report,
      Run.plan .directory (⟨{}, .daily, 0⟩ : Archive MemoryStore) = (planned, .ok plan) ∧
        plan.items ≠ [] ∧
        ((crewFor .directory plan planned).follow (order .directory plan)
          [0, 1, 0, 1, 0, 0, 0, 0, 0]).isDone = true ∧
        performWith (fun order crew => crew.follow order [0, 1, 0, 1, 0, 0, 0, 0, 0])
            .directory (⟨{}, .daily, 0⟩ : Archive MemoryStore) = (final, .ok report) ∧
        IsOnRecord (.toFiles "/data/out") final report.record := by
  constructor
  · have ends : endsWell .daily ⟨.daily, [], 0⟩ [0, 1, 0, 1, 1, 0, 0, 1, 1, 0, 1, 0, 0, 1] =
        true := by decide +kernel
    obtain ⟨planned, plan, final, report, planning, someItems, done, returned⟩ :=
      exists_of_endsWell ends
    exact ⟨planned, plan, final, report, planning, someItems, done, returned,
      (accounts_settled _ planning done returned).1⟩
  · have ends : endsWell .directory ⟨{}, .daily, 0⟩ [0, 1, 0, 1, 0, 0, 0, 0, 0] = true := by
      decide +kernel
    obtain ⟨planned, plan, final, report, planning, someItems, done, returned⟩ :=
      exists_of_endsWell ends
    obtain ⟨_, _, _, _, _, _, onRecord, _⟩ := accounts_settled _ planning done returned
    exact ⟨planned, plan, final, report, planning, someItems, done, returned, onRecord⟩

end DocumentIngest
