import DocumentIngest.Proofs.ValidatedJobs
import DocumentIngest.Proofs.WorkerDeeds

/-!
# A worker's shift

Once a worker has reached the store, what its looks into the queue are answered
decides how long it stays.  Work may come late and at any moment: an item starts the
count of empty looks anew, and only a drained queue, or more empty looks in a row
than there are retries, sends the worker away.  Until then it sees each item through
to its acknowledgement before it looks again.
-/

namespace DocumentIngest

namespace Polled

def ticket? : Polled → Option Ticket
  | .ticket given => some given
  | _ => none

/-- What a worker does about an answer of the queue. -/
def turn : Polled → List WorkerDeed
  | .ticket given => [.look (.ticket given), .enter given, .process given, .acknowledge given]
  | answer => [.look answer]

/-- What is read off the deeds for some answers is what is read off the answers, if that
is so of each of them. -/
theorem filterMap_turns {α : Type} {read : WorkerDeed → Option α} {given : Polled → Option α}
    (each : ∀ answer, (turn answer).filterMap read = (given answer).toList) (heard : List Polled) :
    (heard.flatMap turn).filterMap read = heard.filterMap given := by
  induction heard with
  | nil => rfl
  | cons answer rest ih =>
      rw [List.flatMap_cons, List.filterMap_append, ih, each]
      cases found : given answer <;> simp [found]

theorem found_turns (heard : List Polled) :
    (heard.flatMap turn).filterMap WorkerDeed.found? = heard :=
  (filterMap_turns (fun answer => by cases answer <;> rfl) heard).trans List.filterMap_some

theorem entered_turns (heard : List Polled) :
    (heard.flatMap turn).filterMap WorkerDeed.entered? = heard.filterMap ticket? :=
  filterMap_turns (fun answer => by cases answer <;> rfl) heard

theorem processed_turns (heard : List Polled) :
    (heard.flatMap turn).filterMap WorkerDeed.processed? = heard.filterMap ticket? :=
  filterMap_turns (fun answer => by cases answer <;> rfl) heard

end Polled

namespace WorkQueue

/-- A queue as it stands when a look into it is answered so. -/
def answering (queue : WorkQueue) : Polled → WorkQueue
  | .ticket ticket => { queue with waiting := [ticket] }
  | .empty => { queue with waiting := [], isOpen := true }
  | .drained => { queue with waiting := [], isOpen := false }

variable (queue : WorkQueue)

@[simp]
theorem take_answering (answer : Polled) : (queue.answering answer).take.2 = answer := by
  cases answer <;> rfl

@[simp]
theorem ledger_answering (answer : Polled) : (queue.answering answer).ledger = queue.ledger := by
  cases answer <;> rfl

@[simp]
theorem acknowledged_answering (answer : Polled) :
    (queue.answering answer).acknowledged = queue.acknowledged := by
  cases answer <;> rfl

end WorkQueue

/-- What a worker that has reached the store meets: the answers to its looks into the
queue, and the archive before each of its steps, as it and others left it. -/
structure WorkerShift (σ : Type) where
  order : WorkOrder
  index : Nat
  /-- The queue at the beginning. -/
  queue : WorkQueue
  answers : Nat → Polled
  archives : Nat → Archive σ

/-- How far a worker has come in its shift. -/
structure ShiftPoint where
  worker : Worker
  queue : WorkQueue
  /-- What the worker has done, in order. -/
  deeds : List WorkerDeed := []

/-- The answers that were given. -/
def ShiftPoint.looks (point : ShiftPoint) : List Polled :=
  point.deeds.filterMap WorkerDeed.found?

namespace WorkerPhase

/-- What a worker is bound to do before it looks into the queue again. -/
def ahead : WorkerPhase → List WorkerDeed
  | holding ticket => [.enter ticket, .process ticket, .acknowledge ticket]
  | building ticket => [.process ticket, .acknowledge ticket]
  | writing ticket _ _ => [.process ticket, .acknowledge ticket]
  | acknowledging ticket => [.acknowledge ticket]
  | _ => []

/-- How many steps a worker takes before it looks into the queue again, at most. -/
def stepsAhead : WorkerPhase → Nat
  | holding _ => 4
  | building _ => 3
  | writing _ _ _ => 2
  | acknowledging _ => 1
  | _ => 0

theorem ahead_of_idle {phase : WorkerPhase} (idle : phase.stepsAhead = 0) : phase.ahead = [] := by
  cases phase <;> first | rfl | exact absurd idle (Nat.succ_ne_zero _)

end WorkerPhase

/-- A worker with a ticket in hand does the next thing it is bound to do. -/
theorem Worker.ahead_step {σ : Type} [DocumentStore σ] (order : WorkOrder) {worker : Worker}
    (busy : worker.phase.stepsAhead ≠ 0) (shop : Workshop σ) :
    (worker.deed? order shop).toList ++ (step order worker shop).1.phase.ahead =
        worker.phase.ahead ∧
      (step order worker shop).1.phase.stepsAhead < worker.phase.stepsAhead := by
  obtain ⟨index, phase, pool, report⟩ := worker
  cases phase with
  | holding ticket => exact ⟨rfl, by simp [step, WorkerPhase.stepsAhead]⟩
  | building ticket =>
      simp only [step, deed?]
      cases order.job.document? ticket.item.documentId with
      | none => exact ⟨rfl, by simp [WorkerPhase.stepsAhead]⟩
      | some document => exact ⟨rfl, by simp [WorkerPhase.stepsAhead]⟩
  | writing ticket document built => exact ⟨rfl, by simp [step, WorkerPhase.stepsAhead]⟩
  | acknowledging ticket => exact ⟨rfl, by simp [step, WorkerPhase.stepsAhead]⟩
  | connecting attempts => exact absurd rfl busy
  | polling emptyPolls => exact absurd rfl busy
  | finished => exact absurd rfl busy
  | gaveUp fault => exact absurd rfl busy

namespace WorkerShift

variable {σ : Type} (shift : WorkerShift σ)

/-- The first answers. -/
def heard (count : Nat) : List Polled :=
  (List.range count).map shift.answers

/-- Whether so many answers end in what a worker leaves for: that the queue is drained,
or that it was empty once more in a row than there are retries. -/
def EndsAfter (count : Nat) : Prop :=
  (shift.heard count).getLast? = some .drained ∨
    List.replicate (shift.order.runtime.drainRetries + 1) .empty <:+ shift.heard count

instance (count : Nat) : Decidable (shift.EndsAfter count) :=
  inferInstanceAs (Decidable (_ ∨ _))

/-- The shop as a worker finds it. -/
def shopAt (steps : Nat) (point : ShiftPoint) : Workshop σ where
  archive := shift.archives steps
  queue := point.queue.answering (shift.answers point.looks.length)

theorem length_heard (count : Nat) : (shift.heard count).length = count := by
  rw [heard, List.length_map, List.length_range]

theorem heard_succ (count : Nat) :
    shift.heard (count + 1) = shift.heard count ++ [shift.answers count] := by
  rw [heard, List.range_succ, List.map_append, List.map_singleton]
  rfl

theorem last_heard_succ (count : Nat) :
    (shift.heard (count + 1)).getLast? = some (shift.answers count) := by
  rw [heard_succ, List.getLast?_concat]

/-- A stretch of empty looks gets longer by one with another and ends with anything else. -/
theorem stretch_heard_succ (count times : Nat) :
    List.replicate (times + 1) .empty <:+ shift.heard (count + 1) ↔
      shift.answers count = .empty ∧ List.replicate times .empty <:+ shift.heard count := by
  rw [heard_succ, List.replicate_succ', List.suffix_concat_iff]
  constructor
  · rintro (none | ⟨before, same, stretch⟩)
    · exact absurd none (List.concat_ne_nil _ _)
    · obtain ⟨rfl, last⟩ := List.append_inj' same rfl
      exact ⟨(List.cons.inj last).1.symm, stretch⟩
  · rintro ⟨empty, stretch⟩
    exact .inr ⟨_, by rw [empty], stretch⟩

variable [DocumentStore σ]

def goOn (steps : Nat) (point : ShiftPoint) : ShiftPoint where
  worker := (point.worker.step shift.order (shift.shopAt steps point)).1
  queue := (point.worker.step shift.order (shift.shopAt steps point)).2.queue
  deeds := point.deeds ++ (point.worker.deed? shift.order (shift.shopAt steps point)).toList

/-- How far a worker has come after so many steps. -/
def after : Nat → ShiftPoint
  | 0 => { worker := { index := shift.index, phase := .polling 0 }, queue := shift.queue }
  | steps + 1 => shift.goOn steps (after steps)

/-- The report counts what was processed, and what was entered is in the ledger or
acknowledged. -/
structure Accounts (point : ShiftPoint) : Prop where
  counted : point.worker.report.itemsOk + point.worker.report.itemsFailed =
    (point.deeds.filterMap WorkerDeed.processed?).length
  ledger : point.queue.ledger.Perm (point.worker.entered ++ shift.queue.ledger)
  balance : point.queue.ledger.length + point.queue.acknowledged =
    shift.queue.ledger.length + shift.queue.acknowledged +
      (point.deeds.filterMap WorkerDeed.entered?).length

theorem Accounts.goOn {shift : WorkerShift σ} {point : ShiftPoint}
    (accounts : shift.Accounts point) (steps : Nat) : shift.Accounts (shift.goOn steps point) := by
  obtain ⟨counted, ledger, balance⟩ := accounts
  constructor
  · have here := point.worker.counted_step shift.order (shift.shopAt steps point)
    simp only [WorkerShift.goOn, List.filterMap_append, List.length_append]
    rw [here, counted]
    cases point.worker.deed? shift.order (shift.shopAt steps point) with
    | none => rfl
    | some deed => cases deed <;> rfl
  · have kept := (point.worker.keepsAccounts_step shift.order (shift.shopAt steps point)).ledger
    apply kept
    simpa only [shopAt, WorkQueue.ledger_answering] using ledger
  · have same : (shift.shopAt steps point).queue.ledger.length +
        (shift.shopAt steps point).queue.acknowledged =
          point.queue.ledger.length + point.queue.acknowledged := by
      simp only [shopAt, WorkQueue.ledger_answering, WorkQueue.acknowledged_answering]
    simp only [WorkerShift.goOn, Worker.queue_step, List.filterMap_append, List.length_append]
    cases point.worker.deed? shift.order (shift.shopAt steps point) with
    | none => simpa [same] using balance
    | some deed =>
        have here := deed.balance_applyTo (shift.shopAt steps point).queue
        rw [Option.elim_some, here, same, balance]
        cases deed <;> rfl

theorem accounts_after (steps : Nat) : shift.Accounts (shift.after steps) := by
  induction steps with
  | zero => exact ⟨rfl, List.Perm.refl _, rfl⟩
  | succ steps ih => exact ih.goOn steps

/-- Where a worker stands that has heard so many answers: it polls and knows how often
in a row the queue was empty, it has the ticket in hand that it was given last, or it has
left because it was time. -/
def Stands (count : Nat) : WorkerPhase → Prop
  | .polling emptyPolls =>
      emptyPolls ≤ shift.order.runtime.drainRetries ∧ (shift.heard count).getLast? ≠ some .drained ∧
        ∀ times, List.replicate times .empty <:+ shift.heard count ↔ times ≤ emptyPolls
  | .holding ticket => (shift.heard count).getLast? = some (.ticket ticket)
  | .building ticket => (shift.heard count).getLast? = some (.ticket ticket)
  | .writing ticket _ _ => (shift.heard count).getLast? = some (.ticket ticket)
  | .acknowledging ticket => (shift.heard count).getLast? = some (.ticket ticket)
  | .finished => shift.EndsAfter count
  | .connecting _ => False
  | .gaveUp _ => False

structure InTurn (count : Nat) (point : ShiftPoint) : Prop where
  deeds : point.deeds ++ point.worker.phase.ahead = (shift.heard count).flatMap Polled.turn
  unended : ∀ fewer < count, ¬shift.EndsAfter fewer
  stands : shift.Stands count point.worker.phase

omit [DocumentStore σ] in
theorem InTurn.looked {shift : WorkerShift σ} {count : Nat} {point : ShiftPoint}
    (inTurn : shift.InTurn count point) : point.looks.length = count := by
  have none : point.worker.phase.ahead.filterMap WorkerDeed.found? = [] := by
    unfold WorkerPhase.ahead
    split <;> rfl
  have read := congrArg (List.filterMap WorkerDeed.found?) inTurn.deeds
  rw [List.filterMap_append, none, List.append_nil, Polled.found_turns] at read
  rw [ShiftPoint.looks, read, length_heard]

omit [DocumentStore σ] in
/-- A worker that goes on polling has no reason yet to leave. -/
theorem Stands.goesOn {shift : WorkerShift σ} {count emptyPolls : Nat}
    (stands : shift.Stands count (.polling emptyPolls)) : ¬shift.EndsAfter count := by
  obtain ⟨patient, notDrained, stretch⟩ := stands
  rintro (drained | empty)
  · exact notDrained drained
  · have enough := (stretch _).mp empty
    omega

omit [DocumentStore σ] in
theorem Stands.heeding {shift : WorkerShift σ} {count emptyPolls : Nat}
    (stands : shift.Stands count (.polling emptyPolls)) :
    shift.Stands (count + 1)
      (.heeding shift.order.runtime.drainRetries emptyPolls (shift.answers count)) := by
  obtain ⟨patient, notDrained, stretch⟩ := stands
  have last := shift.last_heard_succ count
  cases answer : shift.answers count with
  | ticket ticket => exact last.trans (congrArg some answer)
  | drained => exact .inl (last.trans (congrArg some answer))
  | empty =>
      have longer : ∀ times, List.replicate times .empty <:+ shift.heard (count + 1) ↔
          times ≤ emptyPolls + 1 := by
        intro times
        cases times with
        | zero => simp
        | succ times =>
            rw [stretch_heard_succ, stretch]
            simp [answer]
      simp only [WorkerPhase.heeding]
      split
      · next enough => exact .inr ((longer _).mpr (by omega))
      · next more => exact ⟨by omega, by simp [last, answer], longer⟩

/-- A worker that looks into the queue hears one answer more. -/
theorem InTurn.look {shift : WorkerShift σ} {count emptyPolls : Nat} {point : ShiftPoint}
    (inTurn : shift.InTurn count point) (polling : point.worker.phase = .polling emptyPolls)
    (steps : Nat) : shift.InTurn (count + 1) (shift.goOn steps point) := by
  have looked := inTurn.looked
  obtain ⟨deeds, unended, stands⟩ := inTurn
  rw [polling] at deeds stands
  have answered : (shift.shopAt steps point).queue.take.2 = shift.answers count := by
    simp only [shopAt, WorkQueue.take_answering, looked]
  have deed : point.worker.deed? shift.order (shift.shopAt steps point) =
      some (.look (shift.answers count)) := by
    simp only [Worker.deed?, polling, answered]
  have phase := (Worker.step_polling shift.order (shift.shopAt steps point) polling).2.1
  rw [answered] at phase
  refine ⟨?_, ?_, ?_⟩
  · simp only [WorkerPhase.ahead, List.append_nil] at deeds
    simp only [WorkerShift.goOn, deed, phase, heard_succ, List.flatMap_append,
      List.flatMap_singleton, ← deeds, Option.toList_some, List.append_assoc]
    congr 1
    cases shift.answers count with
    | ticket ticket => rfl
    | drained => rfl
    | empty =>
        simp only [WorkerPhase.heeding]
        split <;> rfl
  · intro fewer less
    rcases Nat.lt_succ_iff_lt_or_eq.mp less with before | rfl
    · exact unended fewer before
    · exact stands.goesOn
  · simp only [WorkerShift.goOn, phase]
    exact stands.heeding

omit [DocumentStore σ] in
/-- An item starts the count of empty looks anew. -/
theorem stands_polling_zero {count : Nat} {ticket : Ticket}
    (last : (shift.heard count).getLast? = some (.ticket ticket)) :
    shift.Stands count (.polling 0) := by
  refine ⟨Nat.zero_le _, by simp [last], ?_⟩
  intro times
  cases times with
  | zero => simp
  | succ times =>
      cases count with
      | zero => simp [heard]
      | succ count =>
          rw [last_heard_succ] at last
          rw [stretch_heard_succ, Option.some.inj last]
          simp

/-- A worker with a ticket in hand sees it through without another look. -/
theorem InTurn.proceed {shift : WorkerShift σ} {count : Nat} {point : ShiftPoint}
    (inTurn : shift.InTurn count point) (busy : point.worker.phase.stepsAhead ≠ 0) (steps : Nat) :
    shift.InTurn count (shift.goOn steps point) ∧
      (shift.goOn steps point).worker.phase.stepsAhead < point.worker.phase.stepsAhead := by
  obtain ⟨deeds, unended, stands⟩ := inTurn
  obtain ⟨next, less⟩ := Worker.ahead_step shift.order busy (shift.shopAt steps point)
  refine ⟨⟨?_, unended, ?_⟩, less⟩
  · rw [WorkerShift.goOn, List.append_assoc, next]
    exact deeds
  · simp only [WorkerShift.goOn]
    obtain ⟨⟨index, phase, pool, report⟩, queue, done⟩ := point
    cases phase with
    | holding ticket => exact stands
    | building ticket =>
        simp only [Worker.step]
        cases shift.order.job.document? ticket.item.documentId <;> exact stands
    | writing ticket document built => exact stands
    | acknowledging ticket => exact shift.stands_polling_zero stands
    | connecting attempts => exact absurd rfl busy
    | polling emptyPolls => exact absurd rfl busy
    | finished => exact absurd rfl busy
    | gaveUp fault => exact absurd rfl busy

/-- A worker that has left does nothing any more. -/
theorem goOn_of_finished {point : ShiftPoint} (finished : point.worker.phase = .finished)
    (steps : Nat) :
    (shift.goOn steps point).worker = point.worker ∧
      (shift.goOn steps point).deeds = point.deeds := by
  have done : point.worker.isDone = true := by rw [Worker.isDone, finished]
  constructor
  · rw [WorkerShift.goOn, Worker.step_of_isDone done]
  · simp only [WorkerShift.goOn, Worker.deed?, finished, Option.toList_none, List.append_nil]

omit [DocumentStore σ] in
/-- A worker with nothing in hand has done all that the answers it heard call for. -/
theorem InTurn.deeds_of_idle {shift : WorkerShift σ} {count : Nat} {point : ShiftPoint}
    (inTurn : shift.InTurn count point) (idle : point.worker.phase.stepsAhead = 0) :
    point.deeds = (shift.heard count).flatMap Polled.turn := by
  have deeds := inTurn.deeds
  rwa [WorkerPhase.ahead_of_idle idle, List.append_nil] at deeds

omit [DocumentStore σ] in
/-- A worker with nothing in hand polls or has left. -/
theorem InTurn.polling_or_finished {shift : WorkerShift σ} {count : Nat} {point : ShiftPoint}
    (inTurn : shift.InTurn count point) (idle : point.worker.phase.stepsAhead = 0) :
    (∃ emptyPolls, point.worker.phase = .polling emptyPolls) ∨
      point.worker.phase = .finished := by
  have stands := inTurn.stands
  cases phase : point.worker.phase with
  | polling emptyPolls => exact .inl ⟨emptyPolls, rfl⟩
  | finished => exact .inr rfl
  | connecting attempts =>
      rw [phase] at stands
      exact stands.elim
  | gaveUp fault =>
      rw [phase] at stands
      exact stands.elim
  | holding ticket => simp [phase, WorkerPhase.stepsAhead] at idle
  | building ticket => simp [phase, WorkerPhase.stepsAhead] at idle
  | writing ticket document built => simp [phase, WorkerPhase.stepsAhead] at idle
  | acknowledging ticket => simp [phase, WorkerPhase.stepsAhead] at idle

theorem InTurn.goOn {shift : WorkerShift σ} {count : Nat} {point : ShiftPoint}
    (inTurn : shift.InTurn count point) (steps : Nat) :
    ∃ later, shift.InTurn later (shift.goOn steps point) := by
  by_cases idle : point.worker.phase.stepsAhead = 0
  · rcases inTurn.polling_or_finished idle with ⟨emptyPolls, polling⟩ | finished
    · exact ⟨count + 1, inTurn.look polling steps⟩
    · obtain ⟨worker, deeds⟩ := shift.goOn_of_finished finished steps
      refine ⟨count, ?_, inTurn.unended, ?_⟩
      · rw [worker, deeds]
        exact inTurn.deeds
      · rw [worker]
        exact inTurn.stands
  · exact ⟨count, (inTurn.proceed idle steps).1⟩

theorem exists_inTurn_after (steps : Nat) : ∃ count, shift.InTurn count (shift.after steps) := by
  induction steps with
  | zero =>
      refine ⟨0, rfl, nofun, Nat.zero_le _, nofun, fun times => ?_⟩
      simp [heard]
  | succ steps ih =>
      obtain ⟨count, inTurn⟩ := ih
      exact inTurn.goOn steps

/-- A worker comes to the end of what it has in hand. -/
theorem exists_idle_after {count : Nat} (steps : Nat)
    (inTurn : shift.InTurn count (shift.after steps)) :
    ∃ later, shift.InTurn count (shift.after later) ∧
      (shift.after later).worker.phase.stepsAhead = 0 := by
  induction left : (shift.after steps).worker.phase.stepsAhead using Nat.strong_induction_on
    generalizing steps with
  | _ left ih =>
      subst left
      by_cases idle : (shift.after steps).worker.phase.stepsAhead = 0
      · exact ⟨steps, inTurn, idle⟩
      · obtain ⟨next, less⟩ := inTurn.proceed idle steps
        exact ih _ less (steps + 1) next rfl

/-- A worker hears every answer, as long as those before it give no reason to leave. -/
theorem exists_heard {count : Nat} (goesOn : ∀ fewer < count, ¬shift.EndsAfter fewer) :
    ∃ steps, shift.InTurn count (shift.after steps) ∧
      (shift.after steps).worker.phase.stepsAhead = 0 := by
  induction count with
  | zero =>
      obtain ⟨count, inTurn⟩ := shift.exists_inTurn_after 0
      have none : count = 0 := inTurn.looked.symm
      exact ⟨0, none ▸ inTurn, rfl⟩
  | succ count ih =>
      obtain ⟨steps, inTurn, idle⟩ := ih fun fewer less => goesOn fewer (by omega)
      rcases inTurn.polling_or_finished idle with ⟨emptyPolls, polling⟩ | finished
      · exact shift.exists_idle_after (steps + 1) (inTurn.look polling steps)
      · have stands := inTurn.stands
        rw [finished] at stands
        exact absurd stands (goesOn count (Nat.lt_succ_self count))

theorem after_of_finished {steps later : Nat}
    (finished : (shift.after steps).worker.phase = .finished) (behind : steps ≤ later) :
    (shift.after later).worker = (shift.after steps).worker ∧
      (shift.after later).deeds = (shift.after steps).deeds := by
  induction later, behind using Nat.le_induction with
  | base => exact ⟨rfl, rfl⟩
  | succ later behind ih =>
      obtain ⟨worker, deeds⟩ := shift.goOn_of_finished (ih.1 ▸ finished) later
      exact ⟨worker.trans ih.1, deeds.trans ih.2⟩

/-- A connected worker does all that the answers to its looks call for and nothing else,
up to the first drained queue or the first stretch of empty looks that is longer than its
retries; there it leaves with a report that counts every item it took, and nothing of
it is left in the ledger.  So it does whatever becomes of the items. -/
theorem drains_and_stops :
    (∀ count, (∀ fewer ≤ count, ¬shift.EndsAfter fewer) →
      ∃ steps, (shift.after steps).deeds = (shift.heard count).flatMap Polled.turn ∧
        (shift.after steps).worker.isDone = false) ∧
    (∀ count, shift.EndsAfter count → (∀ fewer < count, ¬shift.EndsAfter fewer) →
      ∃ steps, ∀ later ≥ steps,
        (shift.after later).deeds = (shift.heard count).flatMap Polled.turn ∧
          (shift.after later).worker.phase = .finished ∧
          ∃ report, (shift.after later).worker.result shift.order = .ok report ∧
            report.itemsOk + report.itemsFailed =
              ((shift.heard count).filterMap Polled.ticket?).length) ∧
    ∀ steps, (shift.after steps).worker.phase = .finished →
      (shift.after steps).deeds = (shift.after steps).looks.flatMap Polled.turn ∧
        (shift.after steps).queue.ledger.Perm shift.queue.ledger ∧
        (shift.after steps).queue.acknowledged = shift.queue.acknowledged +
          ((shift.after steps).looks.filterMap Polled.ticket?).length := by
  refine ⟨?_, ?_, ?_⟩
  · intro count goesOn
    obtain ⟨steps, inTurn, idle⟩ := shift.exists_heard fun fewer less => goesOn fewer less.le
    refine ⟨steps, inTurn.deeds_of_idle idle, ?_⟩
    rcases inTurn.polling_or_finished idle with ⟨emptyPolls, polling⟩ | finished
    · rw [Worker.isDone, polling]
    · have stands := inTurn.stands
      rw [finished] at stands
      exact absurd stands (goesOn count (Nat.le_refl count))
  · intro count ends goesOn
    obtain ⟨steps, inTurn, idle⟩ := shift.exists_heard goesOn
    have deeds := inTurn.deeds_of_idle idle
    rcases inTurn.polling_or_finished idle with ⟨emptyPolls, polling⟩ | finished
    · have stands := inTurn.stands
      rw [polling] at stands
      exact absurd ends stands.goesOn
    · refine ⟨steps, fun later behind => ?_⟩
      obtain ⟨worker, same⟩ := shift.after_of_finished finished behind
      have counted := (shift.accounts_after later).counted
      rw [same, deeds, Polled.processed_turns] at counted
      have left : (shift.after later).worker.phase = .finished := by rw [worker, finished]
      refine ⟨same.trans deeds, left, { (shift.after later).worker.report with
        worker := (shift.after later).worker.index }, ?_, counted⟩
      rw [Worker.result, left]
  · intro steps finished
    obtain ⟨count, inTurn⟩ := shift.exists_inTurn_after steps
    have deeds := inTurn.deeds_of_idle (by simp only [finished, WorkerPhase.stepsAhead])
    have looks : (shift.after steps).looks = shift.heard count := by
      rw [ShiftPoint.looks, deeds, Polled.found_turns]
    obtain ⟨_, ledger, balance⟩ := shift.accounts_after steps
    rw [Worker.entered, finished, List.nil_append] at ledger
    rw [deeds, Polled.entered_turns, ledger.length_eq] at balance
    rw [looks]
    exact ⟨deeds, ledger, by omega⟩

/-- Work comes late, between looks that find the queue empty: an item of an ingest document
that the job does not have, and one whose record is not in the store. -/
def late : WorkerShift MemoryStore where
  order := ⟨.stations, .toStore, { drainRetries := 1 }⟩
  index := 0
  queue := {}
  answers
    | 1 => .ticket ⟨0, .ofIdentifier "raw" "nowhere"⟩
    | 3 => .ticket ⟨1, .ofIdentifier "gone" "stations"⟩
    | _ => .empty
  archives _ := ⟨{}, [], 0⟩

theorem drains_and_stops_late :
    late.EndsAfter 6 ∧ (∀ fewer < 6, ¬late.EndsAfter fewer) ∧
      ∃ steps, ∀ later ≥ steps,
        (late.after later).deeds = (late.heard 6).flatMap Polled.turn ∧
          (late.after later).worker.phase = .finished ∧
          ∃ report, (late.after later).worker.result late.order = .ok report ∧
            report.itemsOk + report.itemsFailed = 2 := by
  have ends : late.EndsAfter 6 := by decide
  have goesOn : ∀ fewer < 6, ¬late.EndsAfter fewer := by decide
  exact ⟨ends, goesOn, late.drains_and_stops.2.1 6 ends goesOn⟩

end WorkerShift

end DocumentIngest
