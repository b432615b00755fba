import DocumentIngest.Proofs.IntakeSteps
import DocumentIngest.Proofs.Planning
import DocumentIngest.Proofs.RunAccounts

/-!
# Passes over a directory

A pass plans, lets its crew work, and writes a record of itself, which is no marker.
So after any history the store reflects what has landed, and a run offers exactly
what is due.  In a pass without timeouts everything offered lands, and a run over
the same directory right after it has nothing to do.
-/

namespace DocumentIngest

namespace Intake

variable {intake : Intake} {documents : DocumentMap} {landed : List (WorkItem × DocumentMap)}

/-- The record of a run changes nothing about what a store reflects. -/
theorem Reflects.recordRun {archive final : Archive MemoryStore} {record : LoadJobRecord}
    {result : Except Failure Unit} (reflects : intake.Reflects archive.store.documents landed)
    (otherId : firstPiece record.id ≠ ['D', 'F']) (isRecord : record.recordType = LoadJobRecord.type)
    (records : Destination.toStore.recordRun archive record = (final, result)) :
    intake.Reflects final.store.documents landed ∧ final.files = archive.files := by
  have aside : ∀ entry ∈ [(record.id, record.toJson)], intake.IsAside entry.1 entry.2 := by
    intro entry member
    rw [List.mem_singleton.mp member]
    exact ⟨otherId, LoadJobRecord.markerOf?_toJson _ isRecord⟩
  have carried : ∀ entry ∈ [(record.id, record.toJson)],
      entry.2.textField? "id" = some entry.1 := by
    intro entry member
    rw [List.mem_singleton.mp member]
    exact record.textField?_id_toJson
  simp only [Destination.recordRun, Destination.sendBatch, DocumentStore.upsert] at records
  rcases archive.store.upsert_of_carried carried with ⟨_, taken⟩ | ⟨timeouts, _, refused⟩
  · rw [List.map_cons, List.map_nil] at taken
    rw [taken] at records
    cases records
    exact ⟨reflects.overlay_aside aside, rfl⟩
  · rw [List.map_cons, List.map_nil] at refused
    rw [refused] at records
    cases records
    exact ⟨reflects, rfl⟩

theorem lastLanding_append (earlier later : List (WorkItem × DocumentMap)) (path : String) :
    lastLanding (earlier ++ later) path =
      (lastLanding later path).or (lastLanding earlier path) := by
  rw [lastLanding, List.reverse_append, List.findSome?_append]
  rfl

theorem exists_of_lastLanding {path : String} {mtime : Int}
    (lands : lastLanding landed path = some mtime) :
    ∃ landing ∈ landed, landedTime? path landing = some mtime := by
  obtain ⟨landing, member, time⟩ := List.exists_of_findSome?_eq_some lands
  exact ⟨landing, List.mem_reverse.mp member, time⟩

theorem landedTime?_of_lastLanding_eq_none {path : String}
    (never : lastLanding landed path = none) :
    ∀ landing ∈ landed, landedTime? path landing = none := by
  intro landing member
  exact List.findSome?_eq_none_iff.mp never landing (List.mem_reverse.mpr member)

theorem IsEligible.isName {files : FileTree} {entries : Keyed FileNode}
    (sees : intake.Sees files entries) {name : String} {mtime : Int}
    (eligible : intake.IsEligible entries name mtime) : Path.IsName name := by
  obtain ⟨⟨content, modified, entry, _⟩, _⟩ := eligible
  exact sees.names _ entry

theorem IsEligible.time_unique {entries : Keyed FileNode} (ascending : Keyed.Ascending entries)
    {name : String} {mtime other : Int} (eligible : intake.IsEligible entries name mtime)
    (otherEligible : intake.IsEligible entries name other) : mtime = other := by
  obtain ⟨⟨content, modified, entry, rfl⟩, _⟩ := eligible
  obtain ⟨⟨otherContent, otherModified, otherEntry, rfl⟩, _⟩ := otherEligible
  have found := Keyed.lookup_of_mem ascending entry
  rw [Keyed.lookup_of_mem ascending otherEntry] at found
  cases found
  rfl

theorem listedTime_lt (modified : Int) : Discovery.listedTime modified < 2 ^ 63 := by
  unfold Discovery.listedTime Discovery.latestTime
  omega

theorem Reflects.isFile_of_mem_offers {documents : DocumentMap}
    (reflects : intake.Reflects documents landed) {files : FileTree} {entries : Keyed FileNode}
    (sees : intake.Sees files entries) :
    ∀ item ∈ intake.offers documents entries, intake.IsFile item := by
  intro item member
  obtain ⟨name, mtime, same, ⟨⟨content, modified, entry, rfl⟩, _⟩, _⟩ :=
    (reflects.mem_offers sees).mp member
  exact ⟨name, _, sees.names _ entry, listedTime_lt modified, same⟩

/-- Closing a run changes nothing about what the store reflects. -/
theorem Reflects.finish {runtime : RuntimeSettings} {plan : RunPlan} {start : Int}
    {crew : Crew MemoryStore} {final : Archive MemoryStore} {result : Except Failure RunReport}
    (reflects : intake.Reflects crew.shop.archive.store.documents landed)
    (finishes : Run.finish (intake.settings runtime) plan start crew = (final, result)) :
    intake.Reflects final.store.documents landed ∧ final.files = crew.shop.archive.files := by
  obtain ⟨_, _, _, loadJobId⟩ := Run.fixed_summarize plan start crew.shop.queue
    (crew.workers.map (Worker.result (Run.order (intake.settings runtime) plan)))
  unfold Run.finish at finishes
  dsimp only at finishes
  generalize Run.summarize plan start crew.shop.queue
    (crew.workers.map (Worker.result (Run.order (intake.settings runtime) plan))) = summary
    at finishes loadJobId
  have otherId : firstPiece summary.loadJobId ≠ ['D', 'F'] := by
    rw [loadJobId, LoadJobRecord.firstPiece_idFor]
    decide
  split at finishes
  · cases finishes
    exact ⟨reflects, rfl⟩
  · split at finishes
    · next recorded =>
        cases finishes
        exact reflects.recordRun otherId rfl recorded
    · next recorded =>
        cases finishes
        exact reflects.recordRun otherId rfl recorded

/-- The pass over a directory whose workers follow a schedule that leads all of them
to the end. -/
def passAlong {runtime : RuntimeSettings} {files : FileTree} {entries : Keyed FileNode}
    (runnable : (intake.settings runtime).validate = .ok ()) (sees : intake.Sees files entries)
    (documents : DocumentMap) (timeouts : Nat) (now : Int) (schedule : List Nat)
    (complete :
      ((Run.crewFor (intake.settings runtime) ⟨intake.job, intake.offers documents entries⟩
        (⟨{ documents, timeouts }, files, now⟩ : Archive MemoryStore)).follow
          (Run.order (intake.settings runtime) ⟨intake.job, intake.offers documents entries⟩)
          schedule).isDone = true) : intake.Pass documents where
  runtime := runtime
  timeouts := timeouts
  files := files
  entries := entries
  now := now
  schedule := schedule
  planned := ⟨{ documents, timeouts }, files, now⟩
  plan := ⟨intake.job, intake.offers documents entries⟩
  final := (Run.performWith (fun order crew => crew.follow order schedule)
    (intake.settings runtime)
    (⟨{ documents, timeouts }, files, now⟩ : Archive MemoryStore)).1
  result := (Run.performWith (fun order crew => crew.follow order schedule)
    (intake.settings runtime)
    (⟨{ documents, timeouts }, files, now⟩ : Archive MemoryStore)).2
  sees := sees
  plans := plan_eq runnable sees documents timeouts now
  complete := complete
  performs := (Prod.mk.eta).symm

/-- Whatever the directory holds, a run over it is a pass. -/
theorem exists_pass {runtime : RuntimeSettings} {files : FileTree} {entries : Keyed FileNode}
    (runnable : (intake.settings runtime).validate = .ok ()) (sees : intake.Sees files entries)
    (documents : DocumentMap) (timeouts : Nat) (now : Int) :
    ∃ pass : intake.Pass documents, pass.runtime = runtime ∧ pass.timeouts = timeouts ∧
      pass.files = files ∧ pass.entries = entries ∧
        Run.perform (intake.settings runtime) ⟨{ documents, timeouts }, files, now⟩ =
          (pass.final, pass.result) := by
  have plans := plan_eq runnable sees documents timeouts now
  obtain ⟨schedule, complete, performs⟩ := Run.exists_schedule_perform plans
  exact ⟨passAlong runnable sees documents timeouts now schedule complete, rfl, rfl, rfl, rfl,
    performs.trans (Prod.mk.eta).symm⟩

namespace Pass

variable (pass : intake.Pass documents)

theorem runnable : (intake.settings pass.runtime).validate = .ok () := by
  have plans := pass.plans
  unfold Run.plan at plans
  split at plans
  · simp at plans
  · next runnable => exact runnable

theorem planned_eq :
    pass.planned = ⟨{ documents, timeouts := pass.timeouts }, pass.files, pass.now⟩ ∧
      pass.plan = ⟨intake.job, intake.offers documents pass.entries⟩ := by
  have plans := pass.plans
  rw [plan_eq pass.runnable pass.sees, Prod.mk.injEq, Except.ok.injEq] at plans
  exact ⟨plans.1.symm, plans.2.symm⟩

/-- The crew at the end of a pass. -/
def crew : Crew MemoryStore :=
  (Run.crewFor (intake.settings pass.runtime) pass.plan pass.planned).follow
    (Run.order (intake.settings pass.runtime) pass.plan) pass.schedule

theorem finishes : Run.finish (intake.settings pass.runtime) pass.plan (Run.secondOf pass.now)
    pass.crew = (pass.final, pass.result) := by
  have performs := pass.performs
  simp only [Run.performWith, pass.plans] at performs
  exact performs

theorem final_eq : pass.final =
    (Run.finish (intake.settings pass.runtime) pass.plan (Run.secondOf pass.now) pass.crew).1 := by
  rw [pass.finishes]

theorem exists_worker : ∃ worker, worker ∈ pass.crew.workers := by
  have runnable := pass.runnable
  have some : pass.runtime.workerCount ≠ 0 := by
    intro none
    simp [Settings.validate, settings, none] at runnable
  have length : pass.crew.workers.length = pass.runtime.workerCount := by
    rw [crew, Crew.length_follow]
    simp [Run.crewFor, Crew.assemble, settings]
  exact List.exists_mem_of_length_pos (by omega)

omit pass in
theorem inPass_start (reflects : intake.Reflects documents landed) (items : List WorkItem)
    (timeouts count : Nat) (files : FileTree) (now : Int) :
    intake.InPass items files landed
      (.assemble count
        { archive := ⟨{ documents, timeouts }, files, now⟩, queue := .ofItems items }) [] where
  fits := by
    intro worker member
    obtain ⟨index, _, rfl⟩ := List.mem_map.mp member
    exact ⟨.start, by simp [Worker.unwritten?], by simp⟩
  waiting := by
    intro ticket member
    have waiting := (WorkQueue.ofItems_spec items).1
    exact waiting ▸ List.mem_map.mpr ⟨ticket, member, rfl⟩
  files := rfl
  reflects := by
    rw [List.append_nil]
    exact reflects
  ofItems := by simp

omit pass in
theorem delivers_start (items : List WorkItem) (documents : DocumentMap) (count : Nat)
    (files : FileTree) (now : Int) :
    Delivers items
      (.assemble count
        { archive := ⟨{ documents, timeouts := 0 }, files, now⟩, queue := .ofItems items }) [] where
  refusals := rfl
  timeouts := rfl
  reaches := by
    intro worker member done
    obtain ⟨index, _, rfl⟩ := List.mem_map.mp member
    simp [Worker.isDone] at done
  tracked := by
    intro item member
    rw [← (WorkQueue.ofItems_spec items).1] at member
    exact .inl (List.mem_map.mp member)

variable (unlike : intake.BuildsNoMarkers) (reflects : intake.Reflects documents landed)

include unlike reflects

/-- What holds at the end of a pass, with more of it if no write was to time out. -/
theorem inPass_and_delivers :
    intake.InPass (intake.offers documents pass.entries) pass.files landed pass.crew
        pass.landings ∧
      (pass.timeouts = 0 →
        Delivers (intake.offers documents pass.entries) pass.crew pass.landings) := by
  obtain ⟨planned, plan⟩ := pass.planned_eq
  have areFiles := reflects.isFile_of_mem_offers pass.sees
  rw [← List.nil_append pass.landings, crew, landings, planned, plan]
  refine @Crew.follow_induction MemoryStore _ _
    (fun crew landings =>
      intake.InPass (intake.offers documents pass.entries) pass.files landed crew landings ∧
        (pass.timeouts = 0 → Delivers (intake.offers documents pass.entries) crew landings))
    ?_ pass.schedule _ _ ⟨inPass_start reflects _ _ _ _ _, ?_⟩
  -- The second part needs that the worker is on the items of the pass, which is in
  -- the first.
  · rintro before worker after shop landings ⟨inPass, delivers⟩
    have fits := inPass.fits worker (mem_replaced before after worker)
    exact ⟨inPass.step unlike rfl rfl areFiles,
      fun reliable => (delivers reliable).step rfl rfl areFiles fits⟩
  · intro reliable
    rw [reliable]
    exact delivers_start _ documents _ _ _

/-- After a pass the store reflects what landed before and during the pass, the files
are as they were, and what landed was offered. -/
theorem reflects_final :
    intake.Reflects pass.final.store.documents (landed ++ pass.landings) ∧
      pass.final.files = pass.files ∧
        ∀ landing ∈ pass.landings, landing.1 ∈ intake.offers documents pass.entries := by
  have inPass := (pass.inPass_and_delivers unlike reflects).1
  obtain ⟨after, files⟩ := inPass.reflects.finish pass.finishes
  exact ⟨after, files.trans inPass.files, inPass.ofItems⟩

/-- In a pass without timeouts everything that is offered lands. -/
theorem exists_landing (reliable : pass.timeouts = 0) {item : WorkItem}
    (offered : item ∈ intake.offers documents pass.entries) :
    ∃ landing ∈ pass.landings, landing.1 = item := by
  have delivers := (pass.inPass_and_delivers unlike reflects).2 reliable
  have done : ∀ worker ∈ pass.crew.workers, worker.isDone = true :=
    List.all_eq_true.mp pass.complete
  -- Nothing waits any more, since somebody has left the queue, and nothing is in hand,
  -- since everybody is done.
  rcases delivers.tracked item offered with
    ⟨ticket, waits, rfl⟩ | ⟨worker, member, ticket, holds, rfl⟩ | lands
  · obtain ⟨worker, member⟩ := pass.exists_worker
    have hasLeft : worker.hasLeft = true := by
      rcases Crew.hasLeft_or_isOutside (done worker member) with hasLeft | outside
      · exact hasLeft
      · simp [delivers.reaches worker member (done worker member)] at outside
    have balanced := Crew.inBalance_follow (Run.order (intake.settings pass.runtime) pass.plan)
      pass.runtime.workerCount pass.planned pass.plan.items pass.schedule
    have empty : pass.crew.shop.queue.waiting = [] := balanced.left worker member hasLeft
    rw [empty] at waits
    simp at waits
  · have free := Worker.unwritten?_of_isDone (done worker member)
    simp [free] at holds
  · exact lands

/-- After a pass without timeouts nothing is due in the same directory. -/
theorem offers_final (reliable : pass.timeouts = 0) :
    intake.offers pass.final.store.documents pass.entries = [] := by
  obtain ⟨after, _, ofOffers⟩ := pass.reflects_final unlike reflects
  apply List.eq_nil_iff_forall_not_mem.mpr
  intro item member
  obtain ⟨name, mtime, rfl, eligible, due⟩ := (after.mem_offers pass.sees).mp member
  have isName := eligible.isName pass.sees
  rw [IsDue, lastLanding_append] at due
  cases lands : lastLanding pass.landings (intake.pathOf name) with
  | some landedAt =>
      -- What landed was offered, and so with the only time that the file has.
      have sameTime : landedAt = mtime := by
        obtain ⟨⟨offered, built⟩, present, time⟩ := exists_of_lastLanding lands
        obtain ⟨other, otherTime, rfl, otherEligible, _⟩ :=
          (reflects.mem_offers pass.sees).mp (ofOffers _ present)
        rw [landedTime?_item] at time
        split at time
        · next samePath =>
            cases time
            cases (pathOf_inj (otherEligible.isName pass.sees) isName).mp samePath
            exact otherEligible.time_unique pass.sees.ascending eligible
        · simp at time
      simp [lands, sameTime] at due
  | none =>
      -- The file was due before the pass, so it was offered, and it landed.
      rw [lands, Option.none_or] at due
      have offered := (reflects.mem_offers pass.sees).mpr ⟨name, mtime, rfl, eligible, due⟩
      obtain ⟨⟨_, built⟩, present, rfl⟩ := pass.exists_landing unlike reflects reliable offered
      have never := landedTime?_of_lastLanding_eq_none lands _ present
      simp [landedTime?_item] at never

end Pass

theorem History.reflects (unlike : intake.BuildsNoMarkers)
    (history : intake.History documents landed) : intake.Reflects documents landed := by
  induction history with
  | start => exact reflects_start
  | @failed documents landed runtime timeouts files now final failure fails history reflects =>
      obtain ⟨refusals, unchanged⟩ := Run.plan_fst ⟨{ documents, timeouts }, files, now⟩
        (intake.settings runtime)
      rw [fails] at unchanged
      dsimp only at unchanged
      rw [unchanged]
      exact reflects
  | pass pass history reflects => exact (pass.reflects_final unlike reflects).1

end Intake

end DocumentIngest
