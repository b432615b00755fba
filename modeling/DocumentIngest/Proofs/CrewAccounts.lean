import DocumentIngest.Proofs.CrewSteps
import Mathlib.Algebra.BigOperators.Group.List.Basic
import Mathlib.Algebra.GroupWithZero.Nat

/-!
# The accounts of a crew

At every moment each work item of a run is waiting, in the hands of a worker, or
counted in a report, and the ledger holds the tickets of the workers between
entering them and acknowledging them.  Each step of each worker keeps these
accounts.  When all workers are done nothing is in hand, and if one of them left
because the queue was drained, nothing waits either.
-/

namespace DocumentIngest

variable {σ : Type} [DocumentStore σ]

namespace WorkQueue

/-- Acknowledging a ticket takes its number, and no other, out of the ledger. -/
theorem ledger_acknowledge {queue : WorkQueue} {number : Nat} {rest : List Nat}
    (known : queue.ledger.Perm (number :: rest)) :
    (queue.acknowledge number).ledger.Perm rest := by
  have present : queue.ledger.contains number = true := by
    rw [List.contains_iff_mem]
    exact known.mem_iff.mpr List.mem_cons_self
  rw [acknowledge, if_pos present]
  have erased := known.erase number
  rwa [List.erase_cons_head] at erased

end WorkQueue

namespace WorkerReport

variable (report : WorkerReport) (item : WorkItem) (built : Except Failure BuildOutcome)

theorem counted_noteItem (delivered : Delivery) :
    (report.noteItem item built delivered).itemsOk +
        (report.noteItem item built delivered).itemsFailed =
      report.itemsOk + report.itemsFailed + 1 := by
  rw [itemsOk_noteItem, itemsFailed_noteItem]
  split <;> omega

theorem partialDispatches_le_noteItem (delivered : Delivery)
    (atMost : report.partialDispatches ≤ report.itemsFailed) :
    (report.noteItem item built delivered).partialDispatches ≤
      (report.noteItem item built delivered).itemsFailed := by
  rw [itemsFailed_noteItem, partialDispatches_noteItem]
  cases delivered.isLost with
  | true =>
      simp only [Bool.true_eq_false, and_false, if_false, if_true]
      omega
  | false =>
      simp only [Bool.false_eq_true, if_false]
      omega

end WorkerReport

namespace Worker

/-- The numbers of the tickets that a worker has in the ledger. -/
def entered (worker : Worker) : List Nat :=
  match worker.phase with
  | .building ticket => [ticket.number]
  | .writing ticket _ _ => [ticket.number]
  | .acknowledging ticket => [ticket.number]
  | _ => []

/-- How many work items a worker has taken that no count of its report knows. -/
def inHand (worker : Worker) : Nat :=
  match worker.phase with
  | .holding _ => 1
  | .building _ => 1
  | .writing _ _ _ => 1
  | _ => 0

/-- How many work items a worker has taken. -/
def taken (worker : Worker) : Nat :=
  worker.report.itemsOk + worker.report.itemsFailed + worker.inHand

/-- Whether a worker has not reached the store, or never will. -/
def isOutside (worker : Worker) : Bool :=
  match worker.phase with
  | .connecting _ => true
  | .gaveUp _ => true
  | _ => false

/-- Whether a worker has left because the queue was empty. -/
def hasLeft (worker : Worker) : Bool :=
  match worker.phase with
  | .finished => true
  | _ => false

/-- How the accounts of a worker and of the queue change in a step that lands
`landed` documents. -/
structure KeepsAccounts (before : Worker) (queue : WorkQueue) (after : Worker)
    (queueAfter : WorkQueue) (landed : Nat) : Prop where
  taken : after.taken + queueAfter.waiting.length = before.taken + queue.waiting.length
  written : after.report.documentsWritten = before.report.documentsWritten + landed
  partialDispatches : before.report.partialDispatches ≤ before.report.itemsFailed →
    after.report.partialDispatches ≤ after.report.itemsFailed
  ledger : ∀ rest, queue.ledger.Perm (before.entered ++ rest) →
    queueAfter.ledger.Perm (after.entered ++ rest)
  isOpen : queueAfter.isOpen = queue.isOpen
  waiting : queueAfter.waiting <:+ queue.waiting
  /-- A worker stays outside with nothing done. -/
  outside : after.isOutside = true → before.isOutside = true ∧ after.report = before.report
  left : queue.isOpen = false → after.hasLeft = true →
    before.hasLeft = true ∨ queueAfter.waiting = []

theorem KeepsAccounts.of_same {before after : Worker} {queue : WorkQueue}
    (report : after.report = before.report) (inHand : after.inHand = before.inHand)
    (entered : after.entered = before.entered)
    (outside : after.isOutside = true → before.isOutside = true)
    (left : after.hasLeft = before.hasLeft) :
    KeepsAccounts before queue after queue 0 where
  taken := by simp only [Worker.taken, report, inHand]
  written := by rw [report, Nat.add_zero]
  partialDispatches := by simp only [report, imp_self]
  ledger := by simp only [entered, imp_self, implies_true]
  isOpen := rfl
  waiting := List.suffix_rfl
  outside := fun stays => ⟨outside stays, report⟩
  left := fun _ hasLeft => .inl (left ▸ hasLeft)

def landedSize (landing : Option (WorkItem × DocumentMap)) : Nat :=
  (landing.toList.map fun landed => landed.2.length).sum

theorem keepsAccounts_step (order : WorkOrder) (worker : Worker) (shop : Workshop σ) :
    KeepsAccounts worker shop.queue (step order worker shop).1 (step order worker shop).2.queue
      (landedSize (worker.landing? order shop)) := by
  obtain ⟨index, phase, pool, report⟩ := worker
  cases phase with
  | connecting attempts =>
      simp only [step, landing?]
      rcases DocumentStore.connect shop.archive.store with ⟨store, fault | _⟩
      · dsimp only
        split
        · exact .of_same rfl rfl rfl (fun _ => rfl) rfl
        · exact .of_same rfl rfl rfl (fun _ => rfl) rfl
      · exact .of_same rfl rfl rfl (fun _ => rfl) rfl
  | polling emptyPolls =>
      simp only [step, landing?, WorkQueue.take]
      cases waiting : shop.queue.waiting with
      | cons ticket rest =>
          constructor <;>
            simp [taken, inHand, entered, isOutside, hasLeft, waiting, landedSize]
          omega
      | nil =>
          cases opened : shop.queue.isOpen with
          | false =>
              constructor <;>
                simp [taken, inHand, entered, isOutside, hasLeft, waiting, landedSize]
          | true =>
              simp only [if_true]
              by_cases patient : order.runtime.drainRetries ≤ emptyPolls
              · rw [if_pos patient]
                constructor <;>
                  simp [taken, inHand, entered, isOutside, hasLeft, waiting, opened, landedSize]
              · rw [if_neg patient]
                exact .of_same rfl rfl rfl (fun outside => outside) rfl
  | holding ticket =>
      constructor <;>
        simp [step, landing?, taken, inHand, entered, isOutside, hasLeft, WorkQueue.enter,
          landedSize]
      intro rest known
      exact (known.append_right [ticket.number]).trans List.perm_append_comm
  | building ticket =>
      simp only [step, landing?]
      cases order.job.document? ticket.item.documentId with
      | none =>
          constructor <;>
            simp [taken, inHand, entered, isOutside, hasLeft, WorkerReport.noteBroken,
              WorkerReport.countFailed, landedSize]
          · omega
          · omega
      | some document => exact .of_same rfl rfl rfl (fun outside => outside) rfl
  | writing ticket document built =>
      simp only [step, write_eq, landing?]
      have arrived := order.destination.size_deliver shop.archive ticket.item (documentsOf built)
        (ticket.item.marker document)
      generalize (order.destination.deliver shop.archive ticket.item (documentsOf built)
        (ticket.item.marker document)).2 = delivered at arrived ⊢
      constructor
      · have counted := report.counted_noteItem ticket.item built delivered
        simp only [taken, inHand]
        omega
      · rw [report.documentsWritten_noteItem ticket.item built arrived]
        cases delivered.isLost <;> simp [landedSize]
      · exact report.partialDispatches_le_noteItem ticket.item built delivered
      · exact fun rest known => known
      · rfl
      · exact List.suffix_rfl
      · simp [isOutside]
      · simp [hasLeft]
  | acknowledging ticket =>
      simp only [step, landing?]
      have same := WorkQueue.acknowledge_waiting shop.queue ticket.number
      constructor
      · simp [taken, inHand, same]
      · simp [landedSize]
      · exact fun atMost => atMost
      · intro rest known
        exact WorkQueue.ledger_acknowledge known
      · exact WorkQueue.acknowledge_isOpen shop.queue ticket.number
      · exact same ▸ List.suffix_rfl
      · simp [isOutside]
      · simp [hasLeft]
  | finished => exact .of_same rfl rfl rfl (fun outside => outside) rfl
  | gaveUp fault => exact .of_same rfl rfl rfl (fun outside => outside) rfl

end Worker

namespace WorkQueue

theorem ofItems_spec (items : List WorkItem) :
    (ofItems items).waiting.map Ticket.item = items ∧ (ofItems items).ledger = [] ∧
      (ofItems items).isOpen = false := by
  -- A queue that accepts goes on accepting, so each push adds one item at the end.
  have pushed : ∀ (rest : List WorkItem) (queue : WorkQueue), queue.accepts = true →
      (rest.foldl push queue).waiting.map Ticket.item = queue.waiting.map Ticket.item ++ rest ∧
        (rest.foldl push queue).ledger = queue.ledger := by
    intro rest
    induction rest with
    | nil => exact fun queue _ => ⟨(List.append_nil _).symm, rfl⟩
    | cons item rest ih =>
        intro queue accepts
        have behind := ih (queue.push item) (by rw [push_of_accepts accepts]; exact accepts)
        rw [List.foldl_cons]
        refine ⟨behind.1.trans ?_, behind.2.trans ?_⟩
        · rw [push_of_accepts accepts]
          simp
        · rw [push_of_accepts accepts]
  obtain ⟨waiting, ledger⟩ := pushed items {} rfl
  exact ⟨waiting, ledger, rfl⟩

end WorkQueue

namespace Crew

/-- The accounts of a crew that was given `total` work items and has landed some of
them. -/
structure InBalance (total : Nat) (crew : Crew σ) (landed : List (WorkItem × DocumentMap)) :
    Prop where
  taken : (crew.workers.map Worker.taken).sum + crew.shop.queue.waiting.length = total
  written : (crew.workers.map fun worker => worker.report.documentsWritten).sum =
    (landed.map fun landing => landing.2.length).sum
  partialDispatches : ∀ worker ∈ crew.workers,
    worker.report.partialDispatches ≤ worker.report.itemsFailed
  ledger : crew.shop.queue.ledger.Perm (crew.workers.flatMap Worker.entered)
  isOpen : crew.shop.queue.isOpen = false
  outside : ∀ worker ∈ crew.workers, worker.isOutside = true → worker.report = {}
  left : ∀ worker ∈ crew.workers, worker.hasLeft = true → crew.shop.queue.waiting = []

omit [DocumentStore σ] in
theorem inBalance_start (count : Nat) (archive : Archive σ) (items : List WorkItem) :
    (assemble count { archive, queue := .ofItems items }).InBalance items.length [] := by
  obtain ⟨waiting, ledger, isOpen⟩ := WorkQueue.ofItems_spec items
  have fresh : ∀ worker ∈ (assemble count { archive, queue := .ofItems items }).workers,
      worker.phase = .connecting 0 ∧ worker.report = {} := by
    intro worker member
    obtain ⟨index, _, rfl⟩ := List.mem_map.mp member
    exact ⟨rfl, rfl⟩
  constructor
  · have none : ((List.range count).map fun index => Worker.taken { index }).sum = 0 := by
      simp [Worker.taken, Worker.inHand]
    have length := congrArg List.length waiting
    rw [List.length_map] at length
    simp only [assemble, List.map_map]
    exact (congrArg₂ (· + ·) none length).trans (Nat.zero_add _)
  · simp [assemble, Function.comp_def]
  · intro worker member
    simp [(fresh worker member).2]
  · have none : (assemble count { archive, queue := .ofItems items }).workers.flatMap
        Worker.entered = [] := by
      apply List.flatMap_eq_nil_iff.mpr
      intro worker member
      simp only [Worker.entered, (fresh worker member).1]
    rw [none]
    exact ledger ▸ List.Perm.refl _
  · exact isOpen
  · exact fun worker member _ => (fresh worker member).2
  · intro worker member hasLeft
    simp [Worker.hasLeft, (fresh worker member).1] at hasLeft

theorem InBalance.step {order : WorkOrder} {total : Nat} {before after : List Worker}
    {worker : Worker} {shop : Workshop σ} {landed : List (WorkItem × DocumentMap)}
    (balanced : InBalance total ⟨before ++ worker :: after, shop⟩ landed) :
    InBalance total
      ⟨before ++ (worker.step order shop).1 :: after, (worker.step order shop).2⟩
      (landed ++ (worker.landing? order shop).toList) := by
  have kept := worker.keepsAccounts_step order shop
  generalize (worker.step order shop).1 = stepped at kept ⊢
  generalize (worker.step order shop).2 = shopAfter at kept ⊢
  have present : worker ∈ before ++ worker :: after :=
    List.mem_append_right _ List.mem_cons_self
  constructor
  · have taken := balanced.taken
    have takenHere := kept.taken
    simp only [List.map_append, List.map_cons, List.sum_append, List.sum_cons] at taken ⊢
    omega
  · have written := balanced.written
    have writtenHere := kept.written
    simp only [List.map_append, List.map_cons, List.sum_append, List.sum_cons] at written ⊢
    rw [Worker.landedSize] at writtenHere
    omega
  · exact forall_mem_of_replaced balanced.partialDispatches
      (kept.partialDispatches (balanced.partialDispatches worker present))
  · have known := balanced.ledger
    -- The order in the ledger does not matter, so the worker that moved may stand first.
    have middle : ∀ one : Worker, ((before ++ one :: after).flatMap Worker.entered).Perm
        (one.entered ++ (before.flatMap Worker.entered ++ after.flatMap Worker.entered)) := by
      intro one
      rw [List.flatMap_append, List.flatMap_cons]
      exact List.perm_append_comm_assoc _ _ _
    exact (kept.ledger _ (known.trans (middle worker))).trans (middle stepped).symm
  · exact kept.isOpen.trans balanced.isOpen
  · apply forall_mem_of_replaced balanced.outside
    intro outside
    obtain ⟨wasOutside, same⟩ := kept.outside outside
    exact same.trans (balanced.outside worker present wasOutside)
  -- What waits only gets less, so a queue that somebody left empty stays empty.
  · have drained : shop.queue.waiting = [] → shopAfter.queue.waiting = [] := by
      intro empty
      exact List.suffix_nil.mp (empty ▸ kept.waiting)
    apply forall_mem_of_replaced fun other member hasLeft =>
      drained (balanced.left other member hasLeft)
    intro hasLeft
    rcases kept.left balanced.isOpen hasLeft with had | empty
    · exact drained (balanced.left worker present had)
    · exact empty

theorem inBalance_follow (order : WorkOrder) (count : Nat) (archive : Archive σ)
    (items : List WorkItem) (schedule : List Nat) :
    ((assemble count { archive, queue := .ofItems items }).follow order schedule).InBalance
      items.length
      ((assemble count { archive, queue := .ofItems items }).landings order schedule) :=
  follow_induction order (fun _ _ _ _ _ balanced => balanced.step) schedule
    (inBalance_start count archive items)

section Done

variable {total : Nat} {crew : Crew σ} {landed : List (WorkItem × DocumentMap)}

theorem hasLeft_or_isOutside {worker : Worker} (done : worker.isDone = true) :
    worker.hasLeft = true ∨ worker.isOutside = true := by
  obtain ⟨index, phase, pool, report⟩ := worker
  cases phase <;> simp [Worker.isDone, Worker.hasLeft, Worker.isOutside] at done ⊢

theorem inHand_of_isDone {worker : Worker} (done : worker.isDone = true) :
    worker.inHand = 0 ∧ worker.entered = [] := by
  obtain ⟨index, phase, pool, report⟩ := worker
  cases phase <;> simp [Worker.isDone, Worker.inHand, Worker.entered] at done ⊢

omit [DocumentStore σ] in
/-- When all workers are done and one of them left, nothing waits, nothing is in
the ledger, and every work item is counted. -/
theorem InBalance.settled (balanced : crew.InBalance total landed) (done : crew.isDone = true)
    (someLeft : ∃ worker ∈ crew.workers, worker.hasLeft = true) :
    crew.shop.queue.unacknowledged = 0 ∧
      (crew.workers.map fun worker => worker.report.itemsOk).sum +
        (crew.workers.map fun worker => worker.report.itemsFailed).sum = total := by
  obtain ⟨leaver, member, hasLeft⟩ := someLeft
  have empty := balanced.left leaver member hasLeft
  have each : ∀ worker ∈ crew.workers, worker.inHand = 0 ∧ worker.entered = [] :=
    fun worker member => inHand_of_isDone (List.all_eq_true.mp done worker member)
  constructor
  · have none : crew.workers.flatMap Worker.entered = [] :=
      List.flatMap_eq_nil_iff.mpr fun worker member => (each worker member).2
    have ledger := balanced.ledger
    rw [none] at ledger
    simp [WorkQueue.unacknowledged, ledger.eq_nil, empty]
  · have taken := balanced.taken
    have counted : crew.workers.map Worker.taken =
        crew.workers.map fun worker => worker.report.itemsOk + worker.report.itemsFailed := by
      apply List.map_congr_left
      intro worker member
      rw [Worker.taken, (each worker member).1, Nat.add_zero]
    rw [counted, List.sum_map_add, empty] at taken
    exact taken

end Done

end Crew

end DocumentIngest
