import DocumentIngest.Proofs.CrewAccounts
import DocumentIngest.Proofs.IntakeSteps
import DocumentIngest.Proofs.ItemEffects
import DocumentIngest.Proofs.RunAccounts

/-!
# Workers in any order

Work items that keep apart come to the same end whoever processes them and when.  At
every moment of a run the store is the one at the start with those items laid over it
that are noted in a report, and every other item is in the hands of a worker or waits.
An item in hand reads nothing that the noted ones have written, so it is built as it
would have been at the start.  When all workers are done every item is noted, and the
order in which that happened makes no difference.
-/

namespace DocumentIngest

open Fallible

namespace Worker

def itemsInHand (worker : Worker) : List WorkItem :=
  worker.unwritten?.toList.map Ticket.item

/-- Whether a worker knows nothing but ingest documents of the job, has not been turned
away, and is about to write what its item builds at the start of the run. -/
structure OnTrack (job : Job) (start : Archive MemoryStore) (worker : Worker) : Prop where
  pool : worker.pool.Reachable job.documents
  reaches : worker.isDone = true → worker.isOutside = false
  built : ∀ ticket document built, worker.phase = .writing ticket document built →
    job.document? ticket.item.documentId = some document ∧ built = job.builds start ticket.item

/-- What a step of a worker does to a run in which `noted` items are in the reports: it
notes `newly` ones, which are then in the store and in hand no more. -/
structure Settling (job : Job) (start : Archive MemoryStore) (noted : List WorkItem)
    (worker : Worker) (shop : Workshop MemoryStore) (later : Worker)
    (shopLater : Workshop MemoryStore) (newly : List WorkItem) : Prop where
  onTrack : later.OnTrack job start
  archive : shopLater.archive =
    { start with store := (noted ++ newly).foldl (job.land start) start.store }
  counts : ∀ summary : RunSummary, summary.addReport later.report =
    (newly.map (job.notes start)).foldl RunSummary.addReport (summary.addReport worker.report)
  items : (newly ++ (later.itemsInHand ++ shopLater.queue.waiting.map Ticket.item)).Perm
    (worker.itemsInHand ++ shop.queue.waiting.map Ticket.item)

variable {job : Job} {start : Archive MemoryStore} {noted : List WorkItem} {worker : Worker}
  {shop : Workshop MemoryStore}

theorem OnTrack.of_idle (onTrack : worker.OnTrack job start) {later : Worker}
    (samePool : later.pool = worker.pool) (idle : later.unwritten? = none)
    (reaches : later.isDone = true → later.isOutside = false) : later.OnTrack job start where
  pool := samePool ▸ onTrack.pool
  reaches := reaches
  built := by
    intro ticket document built writing
    simp [unwritten?, writing] at idle

/-- A step that notes no item. -/
theorem Settling.of_same {later : Worker} {shopLater : Workshop MemoryStore}
    (onTrack : later.OnTrack job start)
    (settled : shop.archive = { start with store := noted.foldl (job.land start) start.store })
    (archive : shopLater.archive = shop.archive)
    (counts : ∀ summary : RunSummary,
      summary.addReport later.report = summary.addReport worker.report)
    (items : later.itemsInHand ++ shopLater.queue.waiting.map Ticket.item =
      worker.itemsInHand ++ shop.queue.waiting.map Ticket.item) :
    Settling job start noted worker shop later shopLater [] where
  onTrack := onTrack
  archive := by rw [archive, settled, List.append_nil]
  counts := counts
  items := List.Perm.of_eq items

/-- A step of a worker with no item in hand who takes none. -/
theorem Settling.of_idle (onTrack : worker.OnTrack job start)
    (settled : shop.archive = { start with store := noted.foldl (job.land start) start.store })
    (before : worker.unwritten? = none) {later : Worker} {shopLater : Workshop MemoryStore}
    (pool : later.pool = worker.pool)
    (counts : ∀ summary : RunSummary,
      summary.addReport later.report = summary.addReport worker.report)
    (idle : later.unwritten? = none) (reaches : later.isDone = true → later.isOutside = false)
    (archive : shopLater.archive = shop.archive)
    (waiting : shopLater.queue.waiting = shop.queue.waiting) :
    Settling job start noted worker shop later shopLater [] := by
  refine .of_same (onTrack.of_idle pool idle reaches) settled archive counts ?_
  rw [itemsInHand, itemsInHand, idle, before, waiting]

/-- Writing an item lands what it leaves, and notes what it adds to the counts. -/
theorem settling_write {order : WorkOrder} (valid : order.job.validate = .ok ())
    (toStore : order.destination = .toStore) {ticket : Ticket} {document : IngestDocument}
    {built : Except Failure BuildOutcome} (writing : worker.phase = .writing ticket document built)
    (onTrack : worker.OnTrack order.job start)
    (settled : shop.archive =
      { start with store := noted.foldl (order.job.land start) start.store })
    (unarmed : start.store.timeouts = 0) :
    Settling order.job start noted worker shop (step order worker shop).1
      (step order worker shop).2 [ticket.item] := by
  obtain ⟨known, same⟩ := onTrack.built ticket document built writing
  obtain ⟨index, phase, pool, report⟩ := worker
  cases writing
  have timeouts : shop.archive.store.timeouts = 0 := by
    rw [settled]
    exact (Job.unarmed_foldl_land order.job start noted start.store).2.trans unarmed
  have marker : ticket.item.marker document = order.job.marker? ticket.item := by
    rw [Job.marker?, known, Option.bind_some]
  have carried : ∀ entry ∈ order.job.leaves start ticket.item,
      entry.2.textField? "id" = some entry.1 := Job.carried_leaves valid known
  rw [Job.leaves, ← same, ← marker] at carried
  obtain ⟨received, lost⟩ := Destination.deliver_memory shop.archive ticket.item carried
  have arrives : ¬shop.archive.store.TimesOut
      (Destination.entries (documentsOf built) (ticket.item.marker document)) :=
    fun timesOut => timesOut.2 timeouts
  have arrived := Bool.eq_false_iff.mpr fun isLost => arrives (lost.mp isLost)
  have size := Destination.size_deliver .toStore shop.archive ticket.item (documentsOf built)
    (ticket.item.marker document) arrived
  have note := report.noteItem_of_arrived ticket.item built arrived size
  simp only [step, write_eq, toStore, note, received]
  constructor
  · exact onTrack.of_idle rfl rfl (by simp [isDone])
  · rw [MemoryStore.receive, if_neg arrives, settled, List.foldl_append]
    simp only [List.foldl_cons, List.foldl_nil, Job.land, Job.leaves, same, marker]
  · intro summary
    simp only [List.map_cons, List.map_nil, List.foldl_cons, List.foldl_nil, Job.notes, ← same]
    exact summary.addReport_noteItem report ticket.item built _
  · exact List.Perm.refl _

/-- An item of an ingest document that the job does not have leaves nothing and counts as
failed. -/
theorem settling_unknown {order : WorkOrder} {ticket : Ticket}
    (unknown : order.job.document? ticket.item.documentId = none)
    (building : worker.phase = .building ticket) (onTrack : worker.OnTrack order.job start)
    (settled : shop.archive =
      { start with store := noted.foldl (order.job.land start) start.store }) :
    Settling order.job start noted worker shop (step order worker shop).1
      (step order worker shop).2 [ticket.item] := by
  obtain ⟨index, phase, pool, report⟩ := worker
  cases building
  have builds : order.job.builds start ticket.item =
      .error (.of (.setup (.unknownIngestDocument ticket.item.documentId))) := by
    simp only [Job.builds, unknown]
  have marker : order.job.marker? ticket.item = none := by
    rw [Job.marker?, unknown, Option.bind_none]
  simp only [step, unknown]
  constructor
  · exact onTrack.of_idle rfl rfl (by simp [isDone])
  · rw [settled, List.foldl_append]
    simp only [List.foldl_cons, List.foldl_nil, Job.land, Job.leaves, builds, marker]
    rfl
  · intro summary
    simp only [List.map_cons, List.map_nil, List.foldl_cons, List.foldl_nil, Job.notes, builds]
    exact summary.addReport_noteItem report ticket.item (.error _) (.written 0)
  · exact List.Perm.refl _

/-- Building an item leaves it in hand, with what it builds at the start of the run if
nothing that it reads was written since. -/
theorem settling_build {order : WorkOrder} (valid : order.job.validate = .ok ())
    {ticket : Ticket} {document : IngestDocument}
    (known : order.job.document? ticket.item.documentId = some document)
    (building : worker.phase = .building ticket) (onTrack : worker.OnTrack order.job start)
    (settled : shop.archive =
      { start with store := noted.foldl (order.job.land start) start.store })
    (apart : ∀ other ∈ noted, order.job.Apart start other ticket.item) :
    Settling order.job start noted worker shop (step order worker shop).1
      (step order worker shop).2 [] := by
  have member : document ∈ order.job.documents := List.mem_of_find?_eq_some known
  have unread : ∀ id ∈ order.job.reads ticket.item,
      Keyed.lookup shop.archive.store.documents id = Keyed.lookup start.store.documents id := by
    intro id isRead
    rw [settled]
    exact Job.lookup_foldl_land apart isRead start.store
  have sameFiles : shop.archive.files = start.files := by
    rw [settled]
  have builds := Job.build_eq_builds valid onTrack.pool known sameFiles unread
  have untouched := build_memory worker.pool shop.archive document ticket.item
  have reachable := reachable_build valid onTrack.pool member shop.archive ticket.item
  simp only [step, building, known]
  refine .of_same ⟨reachable, by simp [isDone], ?_⟩ settled untouched (fun _ => rfl) ?_
  · intro other otherDocument outcome writing
    cases writing
    exact ⟨known, builds⟩
  · simp [itemsInHand, unwritten?, building]

theorem exists_settling_step {order : WorkOrder} (valid : order.job.validate = .ok ())
    (toStore : order.destination = .toStore) (refusals : start.store.refusals = 0)
    (timeouts : start.store.timeouts = 0) (onTrack : worker.OnTrack order.job start)
    (settled : shop.archive =
      { start with store := noted.foldl (order.job.land start) start.store })
    (apart : ∀ item ∈ worker.itemsInHand, ∀ other ∈ noted, order.job.Apart start other item) :
    ∃ newly, Settling order.job start noted worker shop (step order worker shop).1
      (step order worker shop).2 newly := by
  cases phase : worker.phase with
  | connecting attempts =>
      have unarmed : shop.archive.store.refusals = 0 := by
        rw [settled]
        exact (Job.unarmed_foldl_land order.job start noted start.store).1.trans refusals
      have connected : shop.archive.store.connect = (shop.archive.store, .ok ()) := by
        unfold MemoryStore.connect
        rw [unarmed]
      have idle : worker.unwritten? = none := by simp [unwritten?, phase]
      simp only [step, phase, DocumentStore.connect, connected]
      exact ⟨[], .of_idle onTrack settled idle rfl (fun _ => rfl) rfl (by simp [isDone]) rfl rfl⟩
  | polling emptyPolls =>
      have idle : worker.unwritten? = none := by simp [unwritten?, phase]
      refine ⟨[], ?_⟩
      simp only [step, phase, WorkQueue.take]
      cases queued : shop.queue.waiting with
      | cons ticket rest =>
          refine .of_same ⟨onTrack.pool, by simp [isDone], by simp⟩ settled rfl (fun _ => rfl) ?_
          simp [itemsInHand, unwritten?, phase, queued]
      | nil =>
          cases shop.queue.isOpen with
          | false =>
              exact .of_idle onTrack settled idle rfl (fun _ => rfl) rfl (fun _ => rfl) rfl rfl
          | true =>
              simp only [if_true]
              by_cases patient : order.runtime.drainRetries ≤ emptyPolls
              · rw [if_pos patient]
                exact .of_idle onTrack settled idle rfl (fun _ => rfl) rfl (fun _ => rfl) rfl rfl
              · rw [if_neg patient]
                exact .of_idle onTrack settled idle rfl (fun _ => rfl) rfl (fun _ => rfl) rfl rfl
  | holding ticket =>
      simp only [step, phase]
      refine ⟨[], .of_same ⟨onTrack.pool, by simp [isDone], by simp⟩ settled rfl
        (fun _ => rfl) ?_⟩
      simp [itemsInHand, unwritten?, phase, WorkQueue.enter]
  | building ticket =>
      cases known : order.job.document? ticket.item.documentId with
      | none => exact ⟨[ticket.item], settling_unknown known phase onTrack settled⟩
      | some document =>
          have inHand : ticket.item ∈ worker.itemsInHand := by
            simp [itemsInHand, unwritten?, phase]
          exact ⟨[], settling_build valid known phase onTrack settled (apart _ inHand)⟩
  | writing ticket document built =>
      exact ⟨[ticket.item], settling_write valid toStore phase onTrack settled timeouts⟩
  | acknowledging ticket =>
      have idle : worker.unwritten? = none := by simp [unwritten?, phase]
      simp only [step, phase]
      exact ⟨[], .of_idle onTrack settled idle rfl (fun _ => rfl) rfl (by simp [isDone]) rfl
        (WorkQueue.acknowledge_waiting _ _)⟩
  | finished =>
      rw [step_of_isDone (by simp [isDone, phase])]
      exact ⟨[], .of_same onTrack settled rfl (fun _ => rfl) rfl⟩
  | gaveUp fault =>
      rw [step_of_isDone (by simp [isDone, phase])]
      exact ⟨[], .of_same onTrack settled rfl (fun _ => rfl) rfl⟩

end Worker

namespace Crew

/-- What a crew reports, added up as a run does it. -/
def tally (order : WorkOrder) (crew : Crew MemoryStore) : RunSummary :=
  (crew.workers.map (Worker.result order)).foldl RunSummary.addResult {}

/-- The state of a run over items of which `noted` ones are in the reports. -/
structure Settles (job : Job) (start : Archive MemoryStore) (items : List WorkItem)
    (crew : Crew MemoryStore) (noted : List WorkItem) : Prop where
  onTrack : ∀ worker ∈ crew.workers, worker.OnTrack job start
  archive : crew.shop.archive =
    { start with store := noted.foldl (job.land start) start.store }
  counts : (crew.workers.map Worker.report).foldl RunSummary.addReport {} =
    (noted.map (job.notes start)).foldl RunSummary.addReport {}
  items : (noted ++ (crew.workers.flatMap Worker.itemsInHand ++
    crew.shop.queue.waiting.map Ticket.item)).Perm items

variable {order : WorkOrder} {job : Job} {start : Archive MemoryStore} {items : List WorkItem}

theorem settles_start (job : Job) (start : Archive MemoryStore) (items : List WorkItem)
    (count : Nat) :
    (assemble count { archive := start, queue := .ofItems items }).Settles job start items [] := by
  have fresh : ∀ worker ∈ (assemble count { archive := start, queue := .ofItems items }).workers,
      worker.phase = .connecting 0 ∧ worker.pool = {} ∧ worker.report = {} := by
    intro worker member
    obtain ⟨index, _, rfl⟩ := List.mem_map.mp member
    exact ⟨rfl, rfl, rfl⟩
  constructor
  · intro worker member
    obtain ⟨phase, pool, _⟩ := fresh worker member
    exact ⟨pool ▸ .start, by simp [Worker.isDone, phase], by simp [phase]⟩
  · rfl
  · -- An empty report adds nothing.
    have nothing : ∀ workers : List Worker, (∀ worker ∈ workers, worker.report = {}) →
        (workers.map Worker.report).foldl RunSummary.addReport {} = {} := by
      intro workers empty
      induction workers with
      | nil => rfl
      | cons worker rest ih =>
          rw [List.map_cons, List.foldl_cons, empty worker List.mem_cons_self]
          exact ih fun other member => empty other (List.mem_cons_of_mem _ member)
    exact nothing _ fun worker member => (fresh worker member).2.2
  · have none : (assemble count { archive := start, queue := .ofItems items }).workers.flatMap
        Worker.itemsInHand = [] := by
      apply List.flatMap_eq_nil_iff.mpr
      intro worker member
      simp [Worker.itemsInHand, Worker.unwritten?, (fresh worker member).1]
    rw [none]
    exact List.Perm.of_eq (WorkQueue.ofItems_spec items).1

theorem Settles.step (valid : order.job.validate = .ok ()) (toStore : order.destination = .toStore)
    (refusals : start.store.refusals = 0) (timeouts : start.store.timeouts = 0)
    (keepsApart : order.job.KeepsApart start items) {before after : List Worker}
    {worker : Worker} {shop : Workshop MemoryStore} {noted : List WorkItem}
    (settles : Settles order.job start items ⟨before ++ worker :: after, shop⟩ noted) :
    ∃ newly, Settles order.job start items
      ⟨before ++ (worker.step order shop).1 :: after, (worker.step order shop).2⟩
      (noted ++ newly) := by
  have present := Intake.mem_replaced before after worker
  -- What is noted and what is in hand are different places of the list of items.
  have apart : ∀ item ∈ worker.itemsInHand, ∀ other ∈ noted,
      order.job.Apart start other item := by
    have pairwise := (settles.items.pairwise_iff Job.Apart.symm).mpr keepsApart.pairwise
    intro item inHand other isNoted
    apply (List.pairwise_append.mp pairwise).2.2 other isNoted
    exact List.mem_append_left _ (List.mem_flatMap.mpr ⟨worker, present, inHand⟩)
  obtain ⟨newly, stepped⟩ := Worker.exists_settling_step valid toStore refusals timeouts
    (settles.onTrack worker present) settles.archive apart
  generalize (worker.step order shop).1 = later at stepped ⊢
  generalize (worker.step order shop).2 = shopLater at stepped ⊢
  refine ⟨newly, forall_mem_of_replaced settles.onTrack stepped.onTrack, stepped.archive, ?_, ?_⟩
  -- Counts may be added in any order, so the worker that moved may stand last.
  · have last : ∀ (one : Worker) (summary : RunSummary),
        ((before ++ one :: after).map Worker.report).foldl RunSummary.addReport summary =
          (((before ++ after).map Worker.report).foldl RunSummary.addReport summary).addReport
            one.report := by
      intro one summary
      rw [RunSummary.foldl_addReport_perm (List.perm_middle.map Worker.report)]
      exact RunSummary.foldl_addReport_comm _ summary one.report
    have counts := settles.counts
    rw [last] at counts ⊢
    rw [stepped.counts, counts, List.map_append, List.foldl_append]
  · apply (List.perm_iff_count.mpr _).trans settles.items
    intro item
    have moved := stepped.items.count_eq item
    simp only [List.flatMap_append, List.flatMap_cons, List.count_append] at moved ⊢
    omega

theorem exists_settles_follow (valid : order.job.validate = .ok ())
    (toStore : order.destination = .toStore) (refusals : start.store.refusals = 0)
    (timeouts : start.store.timeouts = 0) (keepsApart : order.job.KeepsApart start items)
    (count : Nat) (schedule : List Nat) :
    ∃ noted, ((assemble count { archive := start, queue := .ofItems items }).follow order
      schedule).Settles order.job start items noted := by
  have keeps : ∀ before worker after (shop : Workshop MemoryStore)
      (_ : List (WorkItem × DocumentMap)),
      (∃ noted, Settles order.job start items ⟨before ++ worker :: after, shop⟩ noted) →
        ∃ noted, Settles order.job start items
          ⟨before ++ (worker.step order shop).1 :: after, (worker.step order shop).2⟩ noted := by
    rintro before worker after shop _ ⟨noted, settles⟩
    obtain ⟨newly, stepped⟩ := settles.step valid toStore refusals timeouts keepsApart
    exact ⟨noted ++ newly, stepped⟩
  exact @follow_induction _ _ order
    (fun crew _ => ∃ noted, crew.Settles order.job start items noted) keeps schedule _ []
    ⟨[], settles_start order.job start items count⟩

theorem tally_of_onTrack {crew : Crew MemoryStore} (done : crew.isDone = true)
    (onTrack : ∀ worker ∈ crew.workers, worker.OnTrack job start) :
    crew.tally order = (crew.workers.map Worker.report).foldl RunSummary.addReport {} := by
  rw [tally, List.foldl_map, List.foldl_map]
  apply List.foldl_ext
  intro summary worker member
  have workerDone := List.all_eq_true.mp done worker member
  have reached := (onTrack worker member).reaches workerDone
  obtain ⟨index, phase, pool, report⟩ := worker
  cases phase with
  | gaveUp fault => simp [Worker.isOutside] at reached
  | _ => rfl

/-- When nobody has anything in hand and nothing waits, everything is noted. -/
theorem Settles.perm_of_isDone {crew : Crew MemoryStore} {noted : List WorkItem}
    (settles : crew.Settles job start items noted) (done : crew.isDone = true)
    (drained : crew.shop.queue.waiting = []) : noted.Perm items := by
  have none : crew.workers.flatMap Worker.itemsInHand = [] := by
    apply List.flatMap_eq_nil_iff.mpr
    intro worker member
    have idle := Worker.unwritten?_of_isDone (List.all_eq_true.mp done worker member)
    simp [Worker.itemsInHand, idle]
  have all := settles.items
  rwa [none, drained, List.map_nil, List.append_nil, List.append_nil] at all

end Crew

/-- A way to lead some workers through work items of a job in store mode until all of
them are done. -/
structure Course (job : Job) (start : Archive MemoryStore) (items : List WorkItem) where
  runtime : RuntimeSettings
  count : Nat
  /-- The positions of the workers in the order in which they take their steps. -/
  schedule : List Nat
  someone : 0 < count
  done : ((Crew.assemble count { archive := start, queue := .ofItems items }).follow
    ⟨job, .toStore, runtime⟩ schedule).isDone = true

namespace Course

variable {job : Job} {start : Archive MemoryStore} {items : List WorkItem}

def order (course : Course job start items) : WorkOrder :=
  ⟨job, .toStore, course.runtime⟩

/-- The crew at the end. -/
def crew (course : Course job start items) : Crew MemoryStore :=
  (Crew.assemble course.count { archive := start, queue := .ofItems items }).follow course.order
    course.schedule

def store (course : Course job start items) : MemoryStore :=
  course.crew.shop.archive.store

def summary (course : Course job start items) : RunSummary :=
  course.crew.tally course.order

/-- Any number of workers can be led to the end. -/
theorem exists_of_count (job : Job) (start : Archive MemoryStore) (items : List WorkItem)
    (runtime : RuntimeSettings) {count : Nat} (someone : 0 < count) :
    ∃ course : Course job start items, course.count = count ∧ course.runtime = runtime := by
  obtain ⟨schedule, _, done⟩ := Crew.exists_schedule_run ⟨job, .toStore, runtime⟩ count
    { archive := start, queue := .ofItems items }
  exact ⟨⟨runtime, count, schedule, someone, done⟩, rfl, rfl⟩

theorem drained (course : Course job start items)
    (onTrack : ∀ worker ∈ course.crew.workers, worker.OnTrack job start) :
    course.crew.shop.queue.waiting = [] := by
  have balanced := Crew.inBalance_follow course.order course.count start items course.schedule
  have length := Crew.length_follow course.order
    (Crew.assemble course.count { archive := start, queue := .ofItems items }) course.schedule
  have someone : 0 < course.crew.workers.length := by
    rw [crew, length]
    simpa [Crew.assemble] using course.someone
  have member := List.getElem_mem someone
  have done := List.all_eq_true.mp course.done _ member
  -- Nobody was turned away, so whoever is done has found the queue empty.
  rcases Crew.hasLeft_or_isOutside done with hasLeft | isOutside
  · exact balanced.left _ member hasLeft
  · rw [(onTrack _ member).reaches done] at isOutside
    exact absurd isOutside Bool.false_ne_true

/-- At the end the items have landed as if one after another, and the counts are those
that the items note each by itself. -/
theorem outcome (valid : job.validate = .ok ()) (refusals : start.store.refusals = 0)
    (timeouts : start.store.timeouts = 0) (keepsApart : job.KeepsApart start items)
    (course : Course job start items) :
    course.store = items.foldl (job.land start) start.store ∧
      course.summary = (items.map (job.notes start)).foldl RunSummary.addReport {} := by
  obtain ⟨noted, settles⟩ := @Crew.exists_settles_follow course.order start items valid rfl
    refusals timeouts keepsApart course.count course.schedule
  have all := settles.perm_of_isDone course.done (course.drained settles.onTrack)
  have pairwise := (all.pairwise_iff Job.Apart.symm).mpr keepsApart.pairwise
  constructor
  · rw [store, crew, settles.archive]
    exact Job.foldl_land_perm pairwise all start.store
  · have tallied : course.summary = _ := Crew.tally_of_onTrack course.done settles.onTrack
    rw [tallied]
    exact settles.counts.trans (RunSummary.foldl_addReport_perm (all.map (job.notes start)) {})

/-- Work items of a validated job that keep apart leave the same documents in a store in
memory without armed faults, and add up to the same counts, however many workers
process them and in whatever order these take their steps. -/
theorem same_outcome (valid : job.validate = .ok ()) (refusals : start.store.refusals = 0)
    (timeouts : start.store.timeouts = 0) (keepsApart : job.KeepsApart start items)
    (first second : Course job start items) :
    first.store = second.store ∧ first.summary = second.summary := by
  obtain ⟨firstStore, firstSummary⟩ := outcome valid refusals timeouts keepsApart first
  obtain ⟨secondStore, secondSummary⟩ := outcome valid refusals timeouts keepsApart second
  exact ⟨firstStore.trans secondStore.symm, firstSummary.trans secondSummary.symm⟩

end Course

/-- A stored record, a record that is not there, a file that is not there, and an item of
an ingest document that the job does not have. -/
def WorkItem.mixed : List WorkItem :=
  [.ofIdentifier "raw" "stations", .ofIdentifier "gone" "stations",
    .ofPath "in/a.json" 5 "stations", .ofIdentifier "raw" "nowhere"]

namespace Course

/-- One worker takes all of them. -/
def alone : Course .stations ⟨.daily, [], 0⟩ WorkItem.mixed :=
  ⟨{}, 1, List.replicate 21 0, by decide, by decide +kernel⟩

/-- Two workers take turns in an irregular way. -/
def inTurns : Course .stations ⟨.daily, [], 0⟩ WorkItem.mixed :=
  ⟨{}, 2, [1, 0, 0, 1, 1, 1, 0, 0, 0, 1, 1, 1, 0, 0, 0, 1, 1, 1, 0, 0, 0, 1, 1, 0], by decide,
    by decide +kernel⟩

theorem same_outcome_mixed :
    Job.stations.KeepsApart ⟨.daily, [], 0⟩ WorkItem.mixed ∧ alone.store = inTurns.store ∧
      alone.summary = inTurns.summary := by
  have valid : Job.stations.validate = .ok () := eq_ok_of_isOk (by decide +kernel)
  have keepsApart : Job.stations.KeepsApart ⟨.daily, [], 0⟩ WorkItem.mixed := by
    decide +kernel
  exact ⟨keepsApart, same_outcome valid rfl rfl keepsApart alone inTurns⟩

end Course

end DocumentIngest
