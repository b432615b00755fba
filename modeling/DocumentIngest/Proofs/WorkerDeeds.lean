import DocumentIngest.Proofs.CrewAccounts

/-!
# What workers do

Seen from the store and the queue a worker does five things: it attempts to connect,
looks into the queue, enters a ticket in the ledger, processes it, and acknowledges
it.  A step comes to at most one of these deeds.  The queue changes by the deed
alone, and the report counts a work item exactly when its processing is done.
-/

namespace DocumentIngest

/-- What a step of a worker comes to. -/
inductive WorkerDeed where
  | attempt (reached : Bool)
  | look (found : Polled)
  | enter (ticket : Ticket)
  /-- The last of the steps that read, build and write the item of a ticket, as far as
  they get. -/
  | process (ticket : Ticket)
  | acknowledge (ticket : Ticket)
deriving DecidableEq, Repr

namespace WorkerDeed

def found? : WorkerDeed → Option Polled
  | look found => some found
  | _ => none

def entered? : WorkerDeed → Option Ticket
  | enter ticket => some ticket
  | _ => none

def processed? : WorkerDeed → Option Ticket
  | process ticket => some ticket
  | _ => none

/-- The queue after a deed. -/
def applyTo (queue : WorkQueue) : WorkerDeed → WorkQueue
  | look _ => queue.take.1
  | enter ticket => queue.enter ticket.number
  | acknowledge ticket => queue.acknowledge ticket.number
  | _ => queue

/-- Only entering a ticket adds to what the ledger holds and what was acknowledged. -/
theorem balance_applyTo (deed : WorkerDeed) (queue : WorkQueue) :
    (deed.applyTo queue).ledger.length + (deed.applyTo queue).acknowledged =
      queue.ledger.length + queue.acknowledged + deed.entered?.toList.length := by
  cases deed with
  | attempt reached => rfl
  | look found =>
      simp only [applyTo, WorkQueue.take]
      split <;> rfl
  | enter ticket =>
      simp only [applyTo, WorkQueue.enter, entered?, List.length_append, List.length_singleton,
        Option.toList_some]
      omega
  | process ticket => rfl
  | acknowledge ticket => exact queue.acknowledge_balance ticket.number

end WorkerDeed

/-- Where a look leaves a worker that has found the queue empty so many times. -/
def WorkerPhase.heeding (retries emptyPolls : Nat) : Polled → WorkerPhase
  | .ticket ticket => holding ticket
  | .drained => finished
  | .empty => if retries ≤ emptyPolls then finished else polling (emptyPolls + 1)

namespace Worker

variable {σ : Type} [DocumentStore σ] (order : WorkOrder) (worker : Worker) (shop : Workshop σ)

/-- What the next step of a worker comes to.  A worker that is done does nothing, and
a step that builds an item only begins to process it, unless the job does not know
the ingest document. -/
def deed? : Option WorkerDeed :=
  match worker.phase with
  | .connecting _ => some (.attempt (DocumentStore.connect shop.archive.store).2.isOk)
  | .polling _ => some (.look shop.queue.take.2)
  | .holding ticket => some (.enter ticket)
  | .building ticket =>
      match order.job.document? ticket.item.documentId with
      | none => some (.process ticket)
      | some _ => none
  | .writing ticket _ _ => some (.process ticket)
  | .acknowledging ticket => some (.acknowledge ticket)
  | .finished => none
  | .gaveUp _ => none

section Outside

variable {worker}

theorem step_connecting {attempts : Nat} (connecting : worker.phase = .connecting attempts) :
    (step order worker shop).2 = { shop with
        archive := { shop.archive with
          store := (DocumentStore.connect shop.archive.store).1 } } ∧
      (step order worker shop).1.report = worker.report := by
  obtain ⟨index, phase, pool, report⟩ := worker
  subst connecting
  simp only [step]
  rcases DocumentStore.connect shop.archive.store with ⟨store, fault | _⟩
  · dsimp only
    split <;> exact ⟨rfl, rfl⟩
  · exact ⟨rfl, rfl⟩

/-- A look changes the queue alone, and no count of the report. -/
theorem step_polling {emptyPolls : Nat} (polling : worker.phase = .polling emptyPolls) :
    (step order worker shop).2 = { shop with queue := shop.queue.take.1 } ∧
      (step order worker shop).1.phase =
        .heeding order.runtime.drainRetries emptyPolls shop.queue.take.2 ∧
      (step order worker shop).1.report.itemsOk = worker.report.itemsOk ∧
      (step order worker shop).1.report.itemsFailed = worker.report.itemsFailed := by
  obtain ⟨index, phase, pool, report⟩ := worker
  subst polling
  simp only [step]
  cases shop.queue.take.2 with
  | ticket ticket => exact ⟨rfl, rfl, rfl, rfl⟩
  | drained => exact ⟨rfl, rfl, rfl, rfl⟩
  | empty =>
      simp only [WorkerPhase.heeding]
      split <;> exact ⟨rfl, rfl, rfl, rfl⟩

end Outside

/-- The queue changes by what a step comes to. -/
theorem queue_step :
    (step order worker shop).2.queue =
      (worker.deed? order shop).elim shop.queue (WorkerDeed.applyTo shop.queue) := by
  obtain ⟨index, phase, pool, report⟩ := worker
  cases phase with
  | connecting attempts =>
      rw [(step_connecting order shop rfl).1]
      rfl
  | polling emptyPolls =>
      rw [(step_polling order shop rfl).1]
      rfl
  | building ticket =>
      simp only [step, deed?]
      cases order.job.document? ticket.item.documentId <;> rfl
  | holding ticket => rfl
  | writing ticket document built => rfl
  | acknowledging ticket => rfl
  | finished => rfl
  | gaveUp fault => rfl

/-- The report counts what was processed, whatever came of it. -/
theorem counted_step :
    (step order worker shop).1.report.itemsOk + (step order worker shop).1.report.itemsFailed =
      worker.report.itemsOk + worker.report.itemsFailed +
        ((worker.deed? order shop).bind WorkerDeed.processed?).toList.length := by
  obtain ⟨index, phase, pool, report⟩ := worker
  cases phase with
  | connecting attempts =>
      rw [(step_connecting order shop rfl).2]
      rfl
  | polling emptyPolls =>
      rw [(step_polling order shop rfl).2.2.1, (step_polling order shop rfl).2.2.2]
      rfl
  | building ticket =>
      simp only [step, deed?]
      cases order.job.document? ticket.item.documentId <;> rfl
  | writing ticket document built =>
      simp only [step, deed?, write_eq]
      exact report.counted_noteItem ticket.item built _
  | holding ticket => rfl
  | acknowledging ticket => rfl
  | finished => rfl
  | gaveUp fault => rfl

end Worker

end DocumentIngest
