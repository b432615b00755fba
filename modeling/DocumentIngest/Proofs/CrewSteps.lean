import DocumentIngest.Proofs.Deliveries
import DocumentIngest.Proofs.QueueTraffic

/-!
# Crews at work

A crew moves when one of its workers takes a step.  What a step changes is the
worker itself and the shop; the workers before and behind it stay as they are.
So a property of a crew and of what it has landed is one of all runs if every
step of one worker among others keeps it.  Workers that work one after another
follow one such schedule, and it leads each of them to the end.
-/

namespace DocumentIngest

/-- What holds of all workers and of the one that takes the place of another holds of
all workers afterwards. -/
theorem forall_mem_of_replaced {P : Worker → Prop} {before after : List Worker}
    {worker stepped : Worker} (all : ∀ other ∈ before ++ worker :: after, P other)
    (here : P stepped) : ∀ other ∈ before ++ stepped :: after, P other := by
  intro other member
  rcases List.mem_append.mp member with ahead | member
  · exact all other (List.mem_append_left _ ahead)
  · rcases List.mem_cons.mp member with rfl | behind
    · exact here
    · exact all other (List.mem_append_right _ (List.mem_cons_of_mem _ behind))

variable {σ : Type} [DocumentStore σ]

namespace Worker

/-- The work item whose write lands with the next step of a worker, and the
documents that are written with it. -/
def landing? (order : WorkOrder) (worker : Worker) (shop : Workshop σ) :
    Option (WorkItem × DocumentMap) :=
  match worker.phase with
  | .writing ticket document built =>
      if (order.destination.deliver shop.archive ticket.item (documentsOf built)
          (ticket.item.marker document)).2.isLost then none
      else some (ticket.item, documentsOf built)
  | _ => none

theorem step_of_isDone {order : WorkOrder} {worker : Worker} (done : worker.isDone = true)
    (shop : Workshop σ) : step order worker shop = (worker, shop) := by
  obtain ⟨index, phase, pool, report⟩ := worker
  cases phase with
  | finished => rfl
  | gaveUp fault => rfl
  | connecting attempts => simp [isDone] at done
  | polling emptyPolls => simp [isDone] at done
  | holding ticket => simp [isDone] at done
  | building ticket => simp [isDone] at done
  | writing ticket document built => simp [isDone] at done
  | acknowledging ticket => simp [isDone] at done

/-- A worker that is done takes further steps without effect, so nothing is lost by
letting it take them. -/
theorem runFor_succ (order : WorkOrder) (steps : Nat) (worker : Worker) (shop : Workshop σ) :
    runFor order (steps + 1) worker shop =
      runFor order steps (step order worker shop).1 (step order worker shop).2 := by
  rw [runFor]
  split
  · next done =>
      rw [step_of_isDone done]
      cases steps with
      | zero => rfl
      | succ steps => rw [runFor, if_pos done]
  · rfl

end Worker

namespace Crew

/-- What lands with the next step of the worker at a position. -/
def landing (order : WorkOrder) (crew : Crew σ) (position : Nat) :
    List (WorkItem × DocumentMap) :=
  match crew.workers[position]? with
  | none => []
  | some worker => (worker.landing? order crew.shop).toList

/-- What lands while workers take their steps by a schedule, in order. -/
def landings (order : WorkOrder) (crew : Crew σ) : List Nat → List (WorkItem × DocumentMap)
  | [] => []
  | position :: rest => crew.landing order position ++ (crew.step order position).landings order rest

variable (order : WorkOrder)

theorem step_of_workers {crew : Crew σ} {before after : List Worker} {worker : Worker}
    (workers : crew.workers = before ++ worker :: after) :
    crew.step order before.length =
        ⟨before ++ (worker.step order crew.shop).1 :: after, (worker.step order crew.shop).2⟩ ∧
      crew.landing order before.length = (worker.landing? order crew.shop).toList := by
  have found : crew.workers[before.length]? = some worker := by simp [workers]
  constructor
  · simp only [step, found]
    rw [workers, List.set_append_right _ _ (Nat.le_refl _), Nat.sub_self, List.set_cons_zero]
  · simp only [landing, found]

theorem step_cases (crew : Crew σ) (position : Nat) :
    (crew.step order position = crew ∧ crew.landing order position = []) ∨
      ∃ before worker after, crew.workers = before ++ worker :: after ∧
        crew.step order position =
          ⟨before ++ (worker.step order crew.shop).1 :: after, (worker.step order crew.shop).2⟩ ∧
        crew.landing order position = (worker.landing? order crew.shop).toList := by
  cases found : crew.workers[position]? with
  | none => exact .inl ⟨by simp only [step, found], by simp only [landing, found]⟩
  | some worker =>
      obtain ⟨inside, here⟩ := List.getElem?_eq_some_iff.mp found
      have workers : crew.workers =
          crew.workers.take position ++ worker :: crew.workers.drop (position + 1) := by
        rw [← here, ← List.drop_eq_getElem_cons inside, List.take_append_drop]
      have length : (crew.workers.take position).length = position := by
        rw [List.length_take]
        omega
      have stepped := step_of_workers order workers
      rw [length] at stepped
      exact .inr ⟨_, worker, _, workers, stepped⟩

/-- What every step of a worker among others keeps holds after any schedule. -/
theorem follow_induction {Holds : Crew σ → List (WorkItem × DocumentMap) → Prop}
    (keeps : ∀ before worker after shop landed, Holds ⟨before ++ worker :: after, shop⟩ landed →
      Holds ⟨before ++ (worker.step order shop).1 :: after, (worker.step order shop).2⟩
        (landed ++ (worker.landing? order shop).toList))
    (schedule : List Nat) {crew : Crew σ} {landed : List (WorkItem × DocumentMap)}
    (start : Holds crew landed) :
    Holds (crew.follow order schedule) (landed ++ crew.landings order schedule) := by
  induction schedule generalizing crew landed with
  | nil => simpa [follow, landings] using start
  | cons position rest ih =>
      have stepped : Holds (crew.step order position) (landed ++ crew.landing order position) := by
        rcases step_cases order crew position with
          ⟨same, none⟩ | ⟨before, worker, after, workers, same, landing⟩
        · rw [same, none, List.append_nil]
          exact start
        · rw [same, landing]
          obtain ⟨_, shop⟩ := crew
          cases workers
          exact keeps before worker after shop landed start
      have finished := ih stepped
      rwa [List.append_assoc] at finished

/-- Nobody joins a crew and nobody is dropped from it. -/
theorem length_follow (crew : Crew σ) (schedule : List Nat) :
    (crew.follow order schedule).workers.length = crew.workers.length := by
  induction schedule generalizing crew with
  | nil => rfl
  | cons position rest ih =>
      refine (ih (crew.step order position)).trans ?_
      rw [step]
      split
      · rfl
      · exact List.length_set

end Crew

namespace Worker

/-- The looks into the queue, and the steps for the tickets in it, that are still
ahead of a worker that works alone. -/
def looksLeft (order : WorkOrder) (emptyPolls waiting : Nat) : Nat :=
  if waiting = 0 then order.runtime.drainRetries - emptyPolls + 1
  else 5 * waiting + order.runtime.drainRetries + 1

/-- The most steps that are still ahead of a worker that works alone. -/
def stepsLeft (order : WorkOrder) (worker : Worker) (waiting : Nat) : Nat :=
  match worker.phase with
  | .connecting attempts =>
      (order.runtime.connectRetries - attempts) + 1 + looksLeft order 0 waiting
  | .polling emptyPolls => looksLeft order emptyPolls waiting
  | .holding _ => 4 + looksLeft order 0 waiting
  | .building _ => 3 + looksLeft order 0 waiting
  | .writing _ _ _ => 2 + looksLeft order 0 waiting
  | .acknowledging _ => 1 + looksLeft order 0 waiting
  | .finished => 0
  | .gaveUp _ => 0

theorem looksLeft_le (order : WorkOrder) (waiting : Nat) :
    looksLeft order 0 waiting ≤ 5 * waiting + order.runtime.drainRetries + 1 := by
  unfold looksLeft
  split <;> omega

theorem stepsLeft_step (order : WorkOrder) {worker : Worker} (atWork : worker.isDone = false)
    (shop : Workshop σ) :
    (step order worker shop).1.stepsLeft order (step order worker shop).2.queue.waiting.length <
      worker.stepsLeft order shop.queue.waiting.length := by
  obtain ⟨index, phase, pool, report⟩ := worker
  cases phase with
  | connecting attempts =>
      simp only [step]
      rcases DocumentStore.connect shop.archive.store with ⟨store, fault | _⟩
      · by_cases more : attempts < order.runtime.connectRetries
        · simp only [more, if_true, stepsLeft]
          omega
        · simp only [more, if_false, stepsLeft]
          omega
      · simp only [stepsLeft]
        omega
  | polling emptyPolls =>
      simp only [step, WorkQueue.take]
      cases waiting : shop.queue.waiting with
      | cons ticket rest =>
          have bound := looksLeft_le order rest.length
          have here : looksLeft order emptyPolls (rest.length + 1) =
              5 * (rest.length + 1) + order.runtime.drainRetries + 1 :=
            if_neg (Nat.succ_ne_zero rest.length)
          simp only [stepsLeft, List.length_cons, here]
          omega
      | nil =>
          cases shop.queue.isOpen with
          | false => simp [stepsLeft, looksLeft]
          | true =>
              by_cases patient : order.runtime.drainRetries ≤ emptyPolls
              · simp [patient, stepsLeft, looksLeft]
              · simp only [patient, if_true, if_false, stepsLeft, looksLeft, waiting,
                  List.length_nil]
                omega
  | holding ticket =>
      simp only [step, stepsLeft, WorkQueue.enter]
      omega
  | building ticket =>
      simp only [step]
      cases order.job.document? ticket.item.documentId with
      | none =>
          simp only [stepsLeft]
          omega
      | some document =>
          simp only [stepsLeft]
          omega
  | writing ticket document built =>
      simp only [step, stepsLeft]
      omega
  | acknowledging ticket =>
      simp only [step, stepsLeft, WorkQueue.acknowledge_waiting]
      omega
  | finished => simp [isDone] at atWork
  | gaveUp fault => simp [isDone] at atWork

theorem isDone_runFor {order : WorkOrder} (steps : Nat) {worker : Worker} {shop : Workshop σ}
    (enough : worker.stepsLeft order shop.queue.waiting.length ≤ steps) :
    (runFor order steps worker shop).1.isDone = true := by
  induction steps generalizing worker shop with
  | zero =>
      cases done : worker.isDone with
      | true => exact done
      | false =>
          have less := stepsLeft_step order done shop
          omega
  | succ steps ih =>
      rw [runFor]
      split
      · next done => exact done
      · next notDone =>
          have less := stepsLeft_step order (Bool.eq_false_iff.mpr notDone) shop
          exact ih (Nat.le_of_lt_succ (Nat.lt_of_lt_of_le less enough))

/-- A worker that has not started and works alone comes to an end. -/
theorem isDone_run (order : WorkOrder) {worker : Worker} (fresh : worker.phase = .connecting 0)
    (shop : Workshop σ) : (run order worker shop).1.isDone = true := by
  apply isDone_runFor
  have bound := looksLeft_le order shop.queue.waiting.length
  simp only [stepsLeft, fresh, enoughSteps]
  omega

end Worker

namespace Crew

variable (order : WorkOrder)

theorem follow_append (crew : Crew σ) (first second : List Nat) :
    crew.follow order (first ++ second) = (crew.follow order first).follow order second :=
  List.foldl_append

theorem follow_replicate (steps : Nat) (before after : List Worker) (worker : Worker)
    (shop : Workshop σ) :
    (Crew.mk (before ++ worker :: after) shop).follow order
        (List.replicate steps before.length) =
      ⟨before ++ (worker.runFor order steps shop).1 :: after,
        (worker.runFor order steps shop).2⟩ := by
  induction steps generalizing worker shop with
  | zero => rfl
  | succ steps ih =>
      rw [Worker.runFor_succ, ← ih, List.replicate_succ, follow, List.foldl_cons,
        (step_of_workers order rfl).1]
      rfl

theorem follow_runInTurn (before workers : List Worker) (shop : Workshop σ) :
    ∃ schedule, (Crew.mk (before ++ workers) shop).follow order schedule =
      ⟨before ++ (runInTurn order workers shop).workers, (runInTurn order workers shop).shop⟩ := by
  induction workers generalizing before shop with
  | nil => exact ⟨[], rfl⟩
  | cons worker rest ih =>
      obtain ⟨schedule, follows⟩ :=
        ih (before ++ [(worker.run order shop).1]) (worker.run order shop).2
      refine ⟨List.replicate (Worker.enoughSteps order shop.queue) before.length ++ schedule, ?_⟩
      rw [List.append_assoc, List.append_assoc] at follows
      rw [follow_append, follow_replicate, runInTurn]
      exact follows

theorem isDone_runInTurn (workers : List Worker)
    (fresh : ∀ worker ∈ workers, worker.phase = .connecting 0) (shop : Workshop σ) :
    (runInTurn order workers shop).isDone = true := by
  induction workers generalizing shop with
  | nil => rfl
  | cons worker rest ih =>
      have first := worker.isDone_run order (fresh worker List.mem_cons_self) shop
      have behind := ih (fun other member => fresh other (List.mem_cons_of_mem _ member))
        (worker.run order shop).2
      simp only [isDone, runInTurn, List.all_cons, Bool.and_eq_true]
      exact ⟨first, behind⟩

/-- Workers that work one after another follow a schedule, and come to an end. -/
theorem exists_schedule_run (count : Nat) (shop : Workshop σ) :
    ∃ schedule, (assemble count shop).run order = (assemble count shop).follow order schedule ∧
      ((assemble count shop).follow order schedule).isDone = true := by
  -- The schedule gives each worker in turn as many steps as it can need.
  obtain ⟨schedule, follows⟩ :=
    follow_runInTurn order [] (assemble count shop).workers shop
  have fresh : ∀ worker ∈ (assemble count shop).workers, worker.phase = .connecting 0 := by
    intro worker member
    obtain ⟨index, _, rfl⟩ := List.mem_map.mp member
    rfl
  have done := isDone_runInTurn order _ fresh shop
  have runs : (assemble count shop).follow order schedule = (assemble count shop).run order :=
    follows
  exact ⟨schedule, runs.symm, (congrArg isDone runs).trans done⟩

end Crew

end DocumentIngest
