import DocumentIngest.Proofs.ItemProcessing
import DocumentIngest.Proofs.WorkerDeeds
import Mathlib.Algebra.BigOperators.Group.Finset.Piecewise
import Mathlib.Algebra.Order.BigOperators.Group.Finset

/-!
# Refused connections

The workers of a crew that connect to one store in memory share the refusals it is
armed with, and their attempts may come in any order.  Each attempt uses up one
refusal while there are any, so a worker that gives up has used up one more than it
has retries, and as long as somebody gets through there were not enough of them to
turn all away.
-/

namespace DocumentIngest

namespace MemoryStore

theorem refusals_upsert (store : MemoryStore) (batch : List Json) :
    (store.upsert batch).1.refusals = store.refusals := by
  unfold upsert
  split
  · rfl
  · split <;> rfl

/-- An attempt to connect uses up a refusal or reaches a store that has none left. -/
theorem connect_cases (store : MemoryStore) :
    (store.refusals = 0 ∧ store.connect = (store, .ok ())) ∨
      ∃ refusals fault, store.refusals = refusals + 1 ∧
        store.connect = ({ store with refusals }, .error fault) := by
  obtain ⟨documents, refusals, timeouts⟩ := store
  cases refusals with
  | zero => exact .inl ⟨rfl, rfl⟩
  | succ refusals => exact .inr ⟨refusals, _, rfl, rfl⟩

end MemoryStore

namespace Destination

variable (archive : Archive MemoryStore)

theorem refusals_sendBatch (batch : List Json) :
    (sendBatch archive batch).1.store.refusals = archive.store.refusals :=
  archive.store.refusals_upsert batch

theorem refusals_markConsumed (destination : Destination) (marker : Option DataFileRecord) :
    (destination.markConsumed archive marker).1.store.refusals = archive.store.refusals := by
  unfold markConsumed
  split
  · exact refusals_sendBatch archive _
  · rfl

theorem store_writeFile (directory path : String) (value : Json) :
    (writeFile archive directory path value).1.store = archive.store := by
  unfold writeFile
  split
  · rfl
  · split <;> rfl

theorem refusals_deliver (destination : Destination) (item : WorkItem)
    (documents : DocumentMap) (marker : Option DataFileRecord) :
    (destination.deliver archive item documents marker).1.store.refusals =
      archive.store.refusals := by
  cases documents with
  | nil =>
      have same := refusals_markConsumed archive destination marker
      simp only [deliver, List.isEmpty_nil, if_true]
      generalize destination.markConsumed archive marker = marked at same ⊢
      rcases marked with ⟨archive', _ | _⟩ <;> exact same
  | cons entry rest =>
      cases destination with
      | toStore =>
          have same := refusals_sendBatch archive (batch (entry :: rest) marker)
          simp only [deliver, List.isEmpty_cons, Bool.false_eq_true, if_false]
          generalize sendBatch archive (batch (entry :: rest) marker) = sent at same ⊢
          rcases sent with ⟨archive', _ | _⟩ <;> exact same
      | toFiles directory =>
          have same := store_writeFile archive directory (target directory item)
            (.array (Keyed.values (entry :: rest)))
          simp only [deliver, List.isEmpty_cons, Bool.false_eq_true, if_false]
          generalize writeFile archive directory (target directory item)
            (.array (Keyed.values (entry :: rest))) = written at same ⊢
          rcases written with ⟨archive', _ | _⟩ <;> exact congrArg MemoryStore.refusals same

end Destination

namespace Worker

/-- Only a refused attempt uses up a refusal, and it uses up one. -/
theorem refusals_step (order : WorkOrder) (worker : Worker) (shop : Workshop MemoryStore) :
    shop.archive.store.refusals = (step order worker shop).2.archive.store.refusals +
      (worker.deed? order shop).toList.count (.attempt false) := by
  obtain ⟨index, phase, pool, report⟩ := worker
  cases phase with
  | connecting attempts =>
      rw [(step_connecting order shop rfl).1]
      simp only [deed?, DocumentStore.connect]
      rcases shop.archive.store.connect_cases with ⟨_, reached⟩ | ⟨refusals, fault, armed, refused⟩
      · rw [reached]
        rfl
      · rw [refused, armed]
        rfl
  | polling emptyPolls =>
      rw [(step_polling order shop rfl).1]
      rfl
  | building ticket =>
      simp only [step, deed?]
      cases order.job.document? ticket.item.documentId with
      | none => rfl
      | some document =>
          exact congrArg (·.store.refusals)
            (build_memory pool shop.archive document ticket.item).symm
  | writing ticket document built =>
      simp only [step, deed?, write_eq]
      exact (Destination.refusals_deliver shop.archive order.destination ticket.item _ _).symm
  | holding ticket => rfl
  | acknowledging ticket => rfl
  | finished => rfl
  | gaveUp fault => rfl

variable {σ : Type} [DocumentStore σ]

/-- What the turns and the deeds of a worker say about its attempts to connect: until it
reaches the store or gives up it is refused at each turn, and it is not refused more often
than it has retries without giving up. -/
def Tried (order : WorkOrder) (worker : Worker) (turns : Nat) (deeds : List WorkerDeed) : Prop :=
  match worker.phase with
  | .connecting attempts =>
      attempts = turns ∧ attempts ≤ order.runtime.connectRetries ∧
        deeds = List.replicate attempts (.attempt false)
  | .gaveUp _ => deeds = List.replicate (order.runtime.connectRetries + 1) (.attempt false)
  | _ => deeds.count (.attempt false) ≤ order.runtime.connectRetries

theorem tried_iff_of_inside {worker : Worker} (inside : worker.isOutside = false)
    (order : WorkOrder) (turns : Nat) (deeds : List WorkerDeed) :
    worker.Tried order turns deeds ↔
      deeds.count (.attempt false) ≤ order.runtime.connectRetries := by
  obtain ⟨index, phase, pool, report⟩ := worker
  cases phase with
  | connecting attempts => simp [isOutside] at inside
  | gaveUp fault => simp [isOutside] at inside
  | _ => rfl

theorem attempts_of_inside {worker : Worker} (inside : worker.isOutside = false)
    (order : WorkOrder) (shop : Workshop σ) :
    (worker.deed? order shop).toList.count (.attempt false) = 0 := by
  obtain ⟨index, phase, pool, report⟩ := worker
  cases phase with
  | connecting attempts => simp [isOutside] at inside
  | gaveUp fault => simp [isOutside] at inside
  | building ticket =>
      simp only [deed?]
      cases order.job.document? ticket.item.documentId <;> rfl
  | _ => rfl

theorem Tried.step {order : WorkOrder} {worker : Worker} {turns : Nat}
    {deeds : List WorkerDeed} (tried : worker.Tried order turns deeds) (shop : Workshop σ) :
    (worker.step order shop).1.Tried order (turns + 1)
      (deeds ++ (worker.deed? order shop).toList) := by
  cases outside : worker.isOutside with
  | false =>
      have stays : (worker.step order shop).1.isOutside = false := by
        rw [← Bool.not_eq_true]
        intro back
        have was := ((worker.keepsAccounts_step order shop).outside back).1
        simp [outside] at was
      rw [tried_iff_of_inside outside] at tried
      rw [tried_iff_of_inside stays, List.count_append, attempts_of_inside outside]
      exact tried
  | true =>
      obtain ⟨index, phase, pool, report⟩ := worker
      cases phase with
      | connecting attempts =>
          obtain ⟨rfl, patient, rfl⟩ := tried
          simp only [Worker.step, deed?]
          rcases DocumentStore.connect shop.archive.store with ⟨store, fault | _⟩
          · have refused : List.replicate attempts (WorkerDeed.attempt false) ++
                [.attempt false] = List.replicate (attempts + 1) (.attempt false) :=
              List.replicate_succ'.symm
            by_cases more : attempts < order.runtime.connectRetries
            · simp only [more, if_true]
              exact ⟨rfl, more, refused⟩
            · have last : attempts = order.runtime.connectRetries := by omega
              simp only [more, if_false]
              exact last ▸ refused
          · simpa [Tried, Except.isOk, Except.toBool] using patient
      | gaveUp fault => exact (List.append_nil deeds).trans tried
      | _ => simp [isOutside] at outside

end Worker

namespace Crew

variable {σ : Type} [DocumentStore σ] (order : WorkOrder)

/-- What the next step of the worker at a position comes to. -/
def deed? (crew : Crew σ) (position : Nat) : Option WorkerDeed :=
  crew.workers[position]?.bind fun worker => worker.deed? order crew.shop

/-- What the worker at a position does while all take their steps by a schedule. -/
def deedsAt (position : Nat) : Crew σ → List Nat → List WorkerDeed
  | _, [] => []
  | crew, turn :: rest =>
      (if turn = position then (crew.deed? order turn).toList else []) ++
        deedsAt position (crew.step order turn) rest

theorem length_step (crew : Crew σ) (position : Nat) :
    (crew.step order position).workers.length = crew.workers.length :=
  length_follow order crew [position]

theorem tried_step {crew : Crew σ} {position turns : Nat} {deeds : List WorkerDeed}
    (tried : ∀ worker, crew.workers[position]? = some worker → worker.Tried order turns deeds)
    (turn : Nat) : ∀ worker, (crew.step order turn).workers[position]? = some worker →
      worker.Tried order (turns + if turn = position then 1 else 0)
        (deeds ++ if turn = position then (crew.deed? order turn).toList else []) := by
  intro worker found
  by_cases here : turn = position
  · subst here
    rw [if_pos rfl, if_pos rfl]
    cases was : crew.workers[turn]? with
    | none =>
        simp only [step, was] at found
        cases found
    | some before =>
        obtain ⟨inside, _⟩ := List.getElem?_eq_some_iff.mp was
        simp only [step, was, List.getElem?_set_self inside, Option.some.injEq] at found
        simp only [deed?, was, Option.bind_some, ← found]
        exact (tried before was).step crew.shop
  · rw [if_neg here, if_neg here, List.append_nil]
    apply tried
    rw [← found, step]
    split
    · rfl
    · rw [List.getElem?_set_ne here]

/-- At every moment the deeds of a worker fit where it stands. -/
theorem tried_follow (schedule : List Nat) {crew : Crew σ} {position turns : Nat}
    {deeds : List WorkerDeed}
    (tried : ∀ worker, crew.workers[position]? = some worker → worker.Tried order turns deeds) :
    ∀ worker, (crew.follow order schedule).workers[position]? = some worker →
      worker.Tried order (turns + schedule.count position)
        (deeds ++ crew.deedsAt order position schedule) := by
  induction schedule generalizing crew turns deeds with
  | nil =>
      rw [deedsAt, List.append_nil]
      exact tried
  | cons turn rest ih =>
      have behind := ih (tried_step order tried turn)
      have counted : turns + (turn :: rest).count position =
          turns + (if turn = position then 1 else 0) + rest.count position := by
        simp only [List.count_cons, beq_iff_eq]
        omega
      rw [deedsAt, ← List.append_assoc, counted]
      exact behind

/-- An attempt takes at most one refusal, and nothing else takes any. -/
theorem refusals_step (crew : Crew MemoryStore) (position : Nat) :
    crew.shop.archive.store.refusals = (crew.step order position).shop.archive.store.refusals +
      (crew.deed? order position).toList.count (.attempt false) := by
  cases found : crew.workers[position]? with
  | none =>
      simp only [step, deed?, found]
      rfl
  | some worker =>
      simp only [step, deed?, found, Option.bind_some]
      exact worker.refusals_step order crew.shop

/-- The refusals that are gone are those that the workers met. -/
theorem refusals_follow (schedule : List Nat) (crew : Crew MemoryStore) :
    crew.shop.archive.store.refusals =
      (crew.follow order schedule).shop.archive.store.refusals +
        ∑ position ∈ Finset.range crew.workers.length,
          (crew.deedsAt order position schedule).count (.attempt false) := by
  induction schedule generalizing crew with
  | nil => simp [follow, deedsAt]
  | cons turn rest ih =>
      have here : ∑ position ∈ Finset.range crew.workers.length,
          (if turn = position then (crew.deed? order turn).toList else []).count
            (.attempt false) = (crew.deed? order turn).toList.count (.attempt false) := by
        simp only [apply_ite (List.count _), List.count_nil, Finset.sum_ite_eq, Finset.mem_range]
        split
        · rfl
        · next beyond =>
            rw [deed?, List.getElem?_eq_none (by omega)]
            rfl
      have behind := ih (crew.step order turn)
      rw [length_step] at behind
      simp only [deedsAt, List.count_append, Finset.sum_add_distrib, here]
      rw [refusals_step order crew turn, behind]
      simp only [follow, List.foldl_cons]
      omega

/-- Workers that each weigh so much at their positions are outweighed by all positions
together. -/
theorem countP_mul_le_sum {selected : Worker → Bool} {share : Nat} {workers : List Worker}
    {weight : Nat → Nat} (each : ∀ position worker, workers[position]? = some worker →
      selected worker = true → share ≤ weight position) :
    workers.countP selected * share ≤ ∑ position ∈ Finset.range workers.length, weight position := by
  induction workers generalizing weight with
  | nil => simp
  | cons worker rest ih =>
      have behind := ih fun position other found => each (position + 1) other found
      have here := each 0 worker rfl
      rw [List.length_cons, Finset.sum_range_succ', List.countP_cons, Nat.add_mul]
      cases chosen : selected worker with
      | false =>
          simp only [Bool.false_eq_true, if_false, Nat.zero_mul]
          omega
      | true =>
          simp only [if_true, Nat.one_mul]
          have := here chosen
          omega

end Crew

namespace Worker

/-- Whoever is inside came in when no refusal was left, and none is armed later. -/
theorem refusals_step_of_inside (order : WorkOrder) {worker : Worker}
    {shop : Workshop MemoryStore}
    (none : worker.isOutside = false → shop.archive.store.refusals = 0)
    (inside : (worker.step order shop).1.isOutside = false) :
    (worker.step order shop).2.archive.store.refusals = 0 := by
  have gone := worker.refusals_step order shop
  cases outside : worker.isOutside with
  | false =>
      have := none outside
      omega
  | true =>
      obtain ⟨index, phase, pool, report⟩ := worker
      cases phase with
      | connecting attempts =>
          revert inside
          simp only [step, DocumentStore.connect]
          rcases shop.archive.store.connect_cases with
            ⟨unarmed, reached⟩ | ⟨refusals, fault, armed, refused⟩
          · rw [reached]
            exact fun _ => unarmed
          · rw [refused]
            dsimp only
            split <;> simp [isOutside]
      | gaveUp fault => simp [step, isOutside] at inside
      | _ => simp [isOutside] at outside

end Worker

namespace Crew

/-- If somebody has reached the store, no refusal is left. -/
def LetsIn (crew : Crew MemoryStore) : Prop :=
  ∀ worker ∈ crew.workers, worker.isOutside = false → crew.shop.archive.store.refusals = 0

theorem LetsIn.step {order : WorkOrder} {before after : List Worker} {worker : Worker}
    {shop : Workshop MemoryStore} (letsIn : LetsIn ⟨before ++ worker :: after, shop⟩) :
    LetsIn ⟨before ++ (worker.step order shop).1 :: after, (worker.step order shop).2⟩ := by
  have gone := worker.refusals_step order shop
  apply forall_mem_of_replaced
  · intro other member inside
    have none : shop.archive.store.refusals = 0 := letsIn other member inside
    dsimp only
    omega
  · exact Worker.refusals_step_of_inside order
      (letsIn worker (List.mem_append_right _ List.mem_cons_self))

theorem letsIn_follow (order : WorkOrder) (count : Nat) (shop : Workshop MemoryStore)
    (schedule : List Nat) : ((assemble count shop).follow order schedule).LetsIn := by
  refine @follow_induction MemoryStore _ order (fun crew _ => crew.LetsIn)
    (fun _ _ _ _ _ letsIn => letsIn.step) schedule (assemble count shop) [] ?_
  intro worker member inside
  obtain ⟨index, _, rfl⟩ := List.mem_map.mp member
  simp [Worker.isOutside] at inside

end Crew

/-- Workers that connect to one store in memory, and the order in which they take their
steps. -/
structure ConnectionRush where
  order : WorkOrder
  count : Nat
  shop : Workshop MemoryStore
  schedule : List Nat

namespace ConnectionRush

variable (rush : ConnectionRush)

def retries : Nat :=
  rush.order.runtime.connectRetries

/-- The refusals that the store is armed with at first. -/
def armed : Nat :=
  rush.shop.archive.store.refusals

/-- The crew after the steps. -/
def crew : Crew MemoryStore :=
  (Crew.assemble rush.count rush.shop).follow rush.order rush.schedule

/-- What the worker at a position has done. -/
def deedsAt (position : Nat) : List WorkerDeed :=
  (Crew.assemble rush.count rush.shop).deedsAt rush.order position rush.schedule

/-- Whether a worker has failed. -/
def fails (worker : Worker) : Bool :=
  !(worker.result rush.order).isOk

/-- Nobody tries to connect any more. -/
def Settled : Prop :=
  ∀ worker ∈ rush.crew.workers, ∀ attempts, worker.phase ≠ .connecting attempts

theorem fails_iff (worker : Worker) :
    rush.fails worker = true ↔ ∃ fault, worker.phase = .gaveUp fault := by
  obtain ⟨index, phase, pool, report⟩ := worker
  cases phase <;> simp [fails, Worker.result, Except.isOk, Except.toBool]

theorem length_crew : rush.crew.workers.length = rush.count := by
  rw [crew, Crew.length_follow]
  simp [Crew.assemble]

theorem exists_position {worker : Worker} (member : worker ∈ rush.crew.workers) :
    ∃ position < rush.count, rush.crew.workers[position]? = some worker := by
  obtain ⟨position, within, here⟩ := List.mem_iff_getElem.mp member
  exact ⟨position, rush.length_crew ▸ within, List.getElem?_eq_some_iff.mpr ⟨within, here⟩⟩

theorem tried {position : Nat} {worker : Worker}
    (found : rush.crew.workers[position]? = some worker) :
    worker.Tried rush.order (rush.schedule.count position) (rush.deedsAt position) := by
  have fresh : ∀ other, (Crew.assemble rush.count rush.shop).workers[position]? = some other →
      other.Tried rush.order 0 [] := by
    intro other member
    obtain ⟨index, _, rfl⟩ := List.mem_map.mp (List.mem_of_getElem? member)
    exact ⟨rfl, Nat.zero_le _, rfl⟩
  have followed := Crew.tried_follow rush.order rush.schedule fresh worker found
  rwa [Nat.zero_add] at followed

/-- A worker that had more turns than it has retries does not try to connect any more. -/
theorem settled_of_turns
    (turns : ∀ position < rush.count, rush.retries < rush.schedule.count position) :
    rush.Settled := by
  intro worker member attempts connecting
  obtain ⟨position, within, found⟩ := rush.exists_position member
  have tried := rush.tried found
  rw [Worker.Tried, connecting] at tried
  obtain ⟨all, patient, _⟩ := tried
  have enough := turns position within
  rw [retries] at enough
  omega

theorem armed_eq :
    rush.armed = rush.crew.shop.archive.store.refusals +
      ∑ position ∈ Finset.range rush.count, (rush.deedsAt position).count (.attempt false) := by
  have gone := Crew.refusals_follow rush.order rush.schedule (Crew.assemble rush.count rush.shop)
  have length : (Crew.assemble rush.count rush.shop).workers.length = rush.count := by
    simp [Crew.assemble]
  rw [length] at gone
  exact gone

/-- A worker that fails is turned away once more than it has retries, and does nothing else. -/
theorem deedsAt_of_fails {position : Nat} {worker : Worker}
    (found : rush.crew.workers[position]? = some worker) (failed : rush.fails worker = true) :
    rush.deedsAt position = List.replicate (rush.retries + 1) (.attempt false) := by
  obtain ⟨fault, gaveUp⟩ := (rush.fails_iff worker).mp failed
  have tried := rush.tried found
  rwa [Worker.Tried, gaveUp] at tried

/-- A worker that is not turned away for good is not turned away more often than it has
retries. -/
theorem refused_le_of_not_fails {position : Nat} {worker : Worker}
    (found : rush.crew.workers[position]? = some worker) (goesOn : rush.fails worker = false) :
    (rush.deedsAt position).count (.attempt false) ≤ rush.retries := by
  have tried := rush.tried found
  obtain ⟨index, phase, pool, report⟩ := worker
  cases phase with
  | connecting attempts =>
      obtain ⟨_, patient, deeds⟩ := tried
      rw [deeds, List.count_replicate_self]
      exact patient
  | gaveUp fault =>
      exact absurd ((rush.fails_iff _).mpr ⟨fault, rfl⟩) (Bool.eq_false_iff.mp goesOn)
  | _ => exact tried

theorem refused_le {position : Nat} (within : position < rush.count) :
    (rush.deedsAt position).count (.attempt false) ≤ rush.retries + 1 := by
  have found := List.getElem?_eq_getElem (rush.length_crew.symm ▸ within)
  cases failed : rush.fails _ with
  | true => rw [rush.deedsAt_of_fails found failed, List.count_replicate_self]
  | false => exact Nat.le_succ_of_le (rush.refused_le_of_not_fails found failed)

theorem failures_mul_le :
    rush.crew.workers.countP rush.fails * (rush.retries + 1) ≤ rush.armed := by
  have most := @Crew.countP_mul_le_sum rush.fails (rush.retries + 1) rush.crew.workers
    (fun position => (rush.deedsAt position).count (.attempt false))
    fun position worker found failed => by
      rw [rush.deedsAt_of_fails found failed, List.count_replicate_self]
  have all := rush.armed_eq
  rw [length_crew] at most
  omega

/-- Once nobody tries to connect any more, whoever has not failed is inside. -/
theorem Settled.inside {rush : ConnectionRush} (settled : rush.Settled) {worker : Worker}
    (member : worker ∈ rush.crew.workers) (goesOn : rush.fails worker = false) :
    worker.isOutside = false := by
  have here := settled worker member
  obtain ⟨index, phase, pool, report⟩ := worker
  cases phase with
  | connecting attempts => exact absurd rfl (here attempts)
  | gaveUp fault =>
      exact absurd ((rush.fails_iff _).mpr ⟨fault, rfl⟩) (Bool.eq_false_iff.mp goesOn)
  | _ => rfl

/-- Once nobody tries to connect any more, one worker that has not failed says that there
were not enough refusals for all. -/
theorem Settled.armed_lt {rush : ConnectionRush} (settled : rush.Settled) {worker : Worker}
    (member : worker ∈ rush.crew.workers) (goesOn : rush.fails worker = false) :
    rush.armed < rush.count * (rush.retries + 1) := by
  have none : rush.crew.shop.archive.store.refusals = 0 :=
    Crew.letsIn_follow rush.order rush.count rush.shop rush.schedule worker member
      (settled.inside member goesOn)
  obtain ⟨position, within, found⟩ := rush.exists_position member
  have less := Finset.sum_lt_sum
    (fun other inRange => rush.refused_le (Finset.mem_range.mp inRange))
    ⟨position, Finset.mem_range.mpr within,
      Nat.lt_succ_of_le (rush.refused_le_of_not_fails found goesOn)⟩
  rw [Finset.sum_const_nat fun _ _ => rfl, Finset.card_range] at less
  rw [armed_eq, none, Nat.zero_add]
  exact less

/-- However workers that connect to one store in memory take their steps, an attempt takes
at most one refusal and nothing else takes any, a worker that fails makes one attempt more
than it has retries and never looks into the queue, not more workers fail than the
refusals are enough for, and all fail exactly if they are enough for all. -/
theorem failures_of_refusals :
    (∀ position, rush.crew.shop.archive.store.refusals =
      (rush.crew.step rush.order position).shop.archive.store.refusals +
        if rush.crew.deed? rush.order position = some (.attempt false) then 1 else 0) ∧
    (∀ position worker, rush.crew.workers[position]? = some worker → rush.fails worker = true →
      rush.deedsAt position = List.replicate (rush.retries + 1) (.attempt false) ∧
        ∀ found, .look found ∉ rush.deedsAt position) ∧
    rush.crew.workers.countP rush.fails ≤ rush.armed / (rush.retries + 1) ∧
    (rush.Settled →
      ((∀ worker ∈ rush.crew.workers, rush.fails worker = true) ↔
        rush.count * (rush.retries + 1) ≤ rush.armed)) := by
  refine ⟨?_, ?_, ?_, ?_⟩
  · intro position
    rw [Crew.refusals_step rush.order rush.crew position]
    congr 1
    cases rush.crew.deed? rush.order position with
    | none => rfl
    | some deed => simp [List.count_singleton]
  · intro position worker found failed
    have deeds := rush.deedsAt_of_fails found failed
    exact ⟨deeds, by simp [deeds]⟩
  · exact (Nat.le_div_iff_mul_le (Nat.succ_pos _)).mpr rush.failures_mul_le
  · intro settled
    constructor
    · intro allFail
      have all := rush.failures_mul_le
      rwa [List.countP_eq_length.mpr allFail, length_crew] at all
    · intro enough worker member
      by_contra goesOn
      have less := settled.armed_lt member (Bool.eq_false_iff.mpr goesOn)
      omega

/-- Three workers with one retry each take turns while the store refuses five times: the
one that tries last gets in. -/
def ofThree : ConnectionRush where
  order := ⟨.stations, .toStore, { connectRetries := 1 }⟩
  count := 3
  shop := { archive := ⟨{ refusals := 5 }, [], 0⟩, queue := {} }
  schedule := [0, 1, 2, 2, 1, 0]

theorem failures_of_refusals_ofThree :
    ofThree.crew.workers.countP ofThree.fails ≤ 2 ∧
      ofThree.deedsAt 2 = [.attempt false, .attempt false] ∧
      ((∀ worker ∈ ofThree.crew.workers, ofThree.fails worker = true) ↔ 3 * 2 ≤ 5) := by
  obtain ⟨_, failing, atMost, all⟩ := ofThree.failures_of_refusals
  have second : ∃ worker, ofThree.crew.workers[2]? = some worker ∧
      ofThree.fails worker = true :=
    ⟨_, rfl, by decide +kernel⟩
  obtain ⟨worker, found, failed⟩ := second
  refine ⟨atMost, (failing 2 worker found failed).1, all (ofThree.settled_of_turns (by decide))⟩

end ConnectionRush

end DocumentIngest
