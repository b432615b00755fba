import DocumentIngest.Proofs.Planning
import DocumentIngest.Proofs.RunAccounts

/-!
# Runs that fail

A run fails before its workers start, or because none of them reached the store, or
because its record could not be written.  Planning writes nothing, and workers write
nothing while they connect.  So unless it was the record that failed, the documents
in the store and the files are those from before the run, also if the store begins to
refuse connections while the workers are on their way to it.
-/

namespace DocumentIngest

/-- What happens while a crew works over a store in memory: the worker at a position
takes a step, or the store is armed to misbehave. -/
inductive CrewEvent where
  | step (position : Nat)
  | refuseConnections (count : Nat)
  | timeOutWrites (count : Nat)
deriving DecidableEq, Repr

namespace Workshop

def arm (shop : Workshop MemoryStore) (faults : MemoryStore → MemoryStore) :
    Workshop MemoryStore :=
  { shop with archive := { shop.archive with store := faults shop.archive.store } }

/-- Whether documents and files are those of an archive. -/
def IsUnwritten (archive : Archive MemoryStore) (shop : Workshop MemoryStore) : Prop :=
  shop.archive.store.documents = archive.store.documents ∧ shop.archive.files = archive.files

end Workshop

namespace Crew

def meet (order : WorkOrder) (crew : Crew MemoryStore) : CrewEvent → Crew MemoryStore
  | .step position => crew.step order position
  | .refuseConnections count => ⟨crew.workers, crew.shop.arm ({ · with refusals := count })⟩
  | .timeOutWrites count => ⟨crew.workers, crew.shop.arm ({ · with timeouts := count })⟩

/-- A crew after some events, one after another. -/
def meetAll (order : WorkOrder) (crew : Crew MemoryStore) (events : List CrewEvent) :
    Crew MemoryStore :=
  events.foldl (meet order) crew

/-- Workers that take their steps by a schedule meet nothing else. -/
theorem meetAll_map_step (order : WorkOrder) (crew : Crew MemoryStore) (schedule : List Nat) :
    crew.meetAll order (schedule.map .step) = crew.follow order schedule :=
  List.foldl_map

theorem exists_meetAll_run (order : WorkOrder) (crew : Crew MemoryStore) :
    ∃ events, crew.run order = crew.meetAll order events := by
  obtain ⟨schedule, follows⟩ := follow_runInTurn order [] crew.workers crew.shop
  refine ⟨schedule.map .step, ?_⟩
  rw [meetAll_map_step]
  exact follows.symm

end Crew

namespace Worker

variable {worker : Worker} {order : WorkOrder} {shop : Workshop MemoryStore}
  {archive : Archive MemoryStore}

/-- A worker that is not connected writes nothing. -/
theorem isUnwritten_step (outside : worker.isOutside = true) (unwritten : shop.IsUnwritten archive) :
    (step order worker shop).2.IsUnwritten archive := by
  obtain ⟨index, phase, pool, report⟩ := worker
  cases phase with
  | connecting attempts =>
      have connected := shop.archive.store.documents_connect
      simp only [step, DocumentStore.connect]
      generalize shop.archive.store.connect = answer at connected ⊢
      obtain ⟨store, fault | _⟩ := answer
      · dsimp only
        split <;> exact ⟨connected.trans unwritten.1, unwritten.2⟩
      · exact ⟨connected.trans unwritten.1, unwritten.2⟩
  | gaveUp fault => exact unwritten
  | polling emptyPolls => simp [isOutside] at outside
  | holding ticket => simp [isOutside] at outside
  | building ticket => simp [isOutside] at outside
  | writing ticket document built => simp [isOutside] at outside
  | acknowledging ticket => simp [isOutside] at outside
  | finished => simp [isOutside] at outside

theorem isOutside_step (inside : worker.isOutside = false) :
    (step order worker shop).1.isOutside = false := by
  apply Bool.eq_false_iff.mpr
  intro stays
  have was := ((worker.keepsAccounts_step order shop).outside stays).1
  rw [inside] at was
  cases was

end Worker

namespace Crew

variable {order : WorkOrder} {crew : Crew MemoryStore} {archive : Archive MemoryStore}

/-- Whether a worker has reached the store, or nothing is written yet. -/
def KeepsOff (archive : Archive MemoryStore) (crew : Crew MemoryStore) : Prop :=
  (∃ worker ∈ crew.workers, worker.isOutside = false) ∨ crew.shop.IsUnwritten archive

theorem KeepsOff.step {before after : List Worker} {worker : Worker}
    {shop : Workshop MemoryStore} (keepsOff : KeepsOff archive ⟨before ++ worker :: after, shop⟩) :
    KeepsOff archive
      ⟨before ++ (worker.step order shop).1 :: after, (worker.step order shop).2⟩ := by
  cases here : worker.isOutside with
  | false =>
      exact .inl ⟨(worker.step order shop).1, List.mem_append_right _ List.mem_cons_self,
        Worker.isOutside_step here⟩
  | true =>
      -- whoever is inside is somebody else
      rcases keepsOff with ⟨other, member, inside⟩ | unwritten
      · have elsewhere : other ∈ before ∨ other ∈ after := by
          rcases List.mem_append.mp member with ahead | member
          · exact .inl ahead
          · rcases List.mem_cons.mp member with rfl | behind
            · rw [here] at inside
              cases inside
            · exact .inr behind
        refine .inl ⟨other, ?_, inside⟩
        rcases elsewhere with ahead | behind
        · exact List.mem_append_left _ ahead
        · exact List.mem_append_right _ (List.mem_cons_of_mem _ behind)
      · exact .inr (Worker.isUnwritten_step here unwritten)

theorem KeepsOff.meet (keepsOff : crew.KeepsOff archive) (event : CrewEvent) :
    (crew.meet order event).KeepsOff archive := by
  cases event with
  | step position =>
      rcases step_cases order crew position with ⟨same, _⟩ | ⟨_, _, _, workers, stepped, _⟩
      · rw [Crew.meet, same]
        exact keepsOff
      · rw [Crew.meet, stepped]
        obtain ⟨_, shop⟩ := crew
        cases workers
        exact keepsOff.step
  | refuseConnections count => exact keepsOff
  | timeOutWrites count => exact keepsOff

theorem KeepsOff.meetAll (events : List CrewEvent) (keepsOff : crew.KeepsOff archive) :
    (crew.meetAll order events).KeepsOff archive := by
  induction events generalizing crew with
  | nil => exact keepsOff
  | cons event rest ih => exact ih (keepsOff.meet event)

end Crew

theorem Worker.isOutside_of_result {order : WorkOrder} {worker : Worker}
    (failed : (worker.result order).isOk = false) : worker.isOutside = true := by
  obtain ⟨index, phase, pool, report⟩ := worker
  cases phase with
  | gaveUp fault => rfl
  | connecting attempts => rfl
  | polling emptyPolls => cases failed
  | holding ticket => cases failed
  | building ticket => cases failed
  | writing ticket document built => cases failed
  | acknowledging ticket => cases failed
  | finished => cases failed

namespace Run

/-- A run that is over fails because all its workers gave up, which changes nothing,
or because its record is not written. -/
theorem finish_eq_error {settings : Settings} {plan : RunPlan} {start : Int}
    {crew : Crew MemoryStore} {final : Archive MemoryStore} {failure : Failure}
    (fails : finish settings plan start crew = (final, .error failure)) :
    ((∀ worker ∈ crew.workers, worker.isOutside = true) ∧ final = crew.shop.archive) ∨
      ∃ record cause,
        (destination settings).recordRun crew.shop.archive record = (final, .error cause) ∧
          failure = cause.during "💀 The run finished but its load-job record was not written" := by
  unfold finish at fails
  dsimp only at fails
  split at fails
  · next all =>
      cases fails
      refine .inl ⟨?_, rfl⟩
      obtain ⟨_, _, started, _⟩ := fixed_summarize plan start crew.shop.queue
        (crew.workers.map (Worker.result (order settings plan)))
      rw [started, summarize, RunSummary.workersFailed_foldl, Nat.zero_add,
        List.countP_eq_length] at all
      intro worker member
      have failed := all _ (List.mem_map_of_mem member)
      rw [Bool.not_eq_eq_eq_not, Bool.not_true] at failed
      exact Worker.isOutside_of_result failed
  · next =>
      right
      split at fails
      · next refused =>
          cases fails
          exact ⟨_, _, refused, rfl⟩
      · cases fails

/-- Whether a run ends because its record could not be written. -/
def LosesRecord (lead : WorkOrder → Crew MemoryStore → Crew MemoryStore) (settings : Settings)
    (archive : Archive MemoryStore) : Prop :=
  ∃ planned plan record cause,
    Run.plan settings archive = (planned, .ok plan) ∧
      ((destination settings).recordRun
        (lead (order settings plan) (crewFor settings plan planned)).shop.archive
          record).2 = .error cause ∧
      (performWith lead settings archive).2 =
        .error (cause.during "💀 The run finished but its load-job record was not written")

/-- A run that fails leaves the documents in the store and the files as they were,
whatever its crew meets, unless it fails with its record. -/
theorem leaves_no_trace {lead : WorkOrder → Crew MemoryStore → Crew MemoryStore}
    (leads : ∀ order crew, ∃ events, lead order crew = crew.meetAll order events)
    {settings : Settings} {archive final : Archive MemoryStore} {failure : Failure}
    (fails : performWith lead settings archive = (final, .error failure))
    (otherwise : ¬LosesRecord lead settings archive) :
    final.store.documents = archive.store.documents ∧ final.files = archive.files := by
  obtain ⟨refusals, reads⟩ := plan_fst archive settings
  have failed := fails
  simp only [performWith] at failed
  rcases planning : plan settings archive with ⟨planned, fault | plan⟩
  -- planning has only read, whatever it failed with
  · rw [planning] at failed reads
    cases failed
    dsimp only at reads
    subst reads
    exact ⟨rfl, rfl⟩
  rw [planning] at failed reads
  dsimp only at failed reads
  subst reads
  rcases finish_eq_error failed with ⟨outside, rfl⟩ | ⟨record, cause, refused, rfl⟩
  -- if all gave up, none of them has been inside, and so nobody has written
  · obtain ⟨events, meets⟩ := leads (order settings plan) (crewFor settings plan _)
    rw [meets] at outside ⊢
    have start : (crewFor settings plan
        { archive with store := { archive.store with refusals } }).KeepsOff archive :=
      .inr ⟨rfl, rfl⟩
    rcases start.meetAll events with ⟨worker, member, inside⟩ | unwritten
    · rw [outside worker member] at inside
      cases inside
    · exact unwritten
  · refine absurd ⟨_, plan, record, cause, planning, ?_, ?_⟩ otherwise
    · exact congrArg Prod.snd refused
    · exact congrArg Prod.snd fails

theorem not_losesRecord {lead : WorkOrder → Crew MemoryStore → Crew MemoryStore}
    {settings : Settings} {archive final : Archive MemoryStore} {failure : Failure}
    (fails : performWith lead settings archive = (final, .error failure))
    (other : failure.attempts.head? ≠
      some "💀 The run finished but its load-job record was not written") :
    ¬LosesRecord lead settings archive := by
  rintro ⟨_, _, _, cause, _, _, lost⟩
  rw [fails] at lost
  cases lost
  exact other rfl

end Run

/-- What two workers meet that are refused until they give up. -/
def CrewEvent.refusals : List CrewEvent :=
  .refuseConnections 8 :: (List.replicate 4 (.step 0) ++ List.replicate 4 (.step 1))

/-- A run over a directory whose workers are refused, and one that is refused itself. -/
theorem Run.leaves_no_trace_daily :
    (∃ final failure,
      performWith (fun order crew => crew.meetAll order CrewEvent.refusals) .directory
          ⟨.daily, .daily, 0⟩ = (final, .error failure) ∧
        failure.attempts.head? = none ∧
        final.store.documents = MemoryStore.daily.documents ∧ final.files = .daily) ∧
    ∃ final failure,
      perform .daily (⟨{ MemoryStore.daily with refusals := 4 }, [], 0⟩ : Archive MemoryStore) =
          (final, .error failure) ∧
        failure.attempts.head? =
          some "💀 The supervisor could not reach the store, so nobody else will either" ∧
        final.store.documents = MemoryStore.daily.documents ∧ final.files = [] := by
  have fails (lead : WorkOrder → Crew MemoryStore → Crew MemoryStore) (settings : Settings)
      (archive : Archive MemoryStore) (attempt : Option String)
      (attempted : (match (performWith lead settings archive).2 with
        | .ok _ => false
        | .error failure => failure.attempts.head? == attempt) = true) :
      ∃ final failure, performWith lead settings archive = (final, .error failure) ∧
        failure.attempts.head? = attempt := by
    rcases returned : performWith lead settings archive with ⟨final, failure | report⟩
    · rw [returned] at attempted
      exact ⟨final, failure, rfl, beq_iff_eq.mp attempted⟩
    · rw [returned] at attempted
      cases attempted
  constructor
  · obtain ⟨final, failure, failed, attempt⟩ :=
      fails (fun order crew => crew.meetAll order CrewEvent.refusals) .directory
        ⟨.daily, .daily, 0⟩ none (by decide +kernel)
    have otherwise := not_losesRecord failed (by rw [attempt]; decide)
    exact ⟨final, failure, failed, attempt,
      leaves_no_trace (fun _ _ => ⟨CrewEvent.refusals, rfl⟩) failed otherwise⟩
  · obtain ⟨final, failure, failed, attempt⟩ :=
      fails Crew.run .daily ⟨{ MemoryStore.daily with refusals := 4 }, [], 0⟩
        (some "💀 The supervisor could not reach the store, so nobody else will either")
        (by decide +kernel)
    have otherwise := not_losesRecord failed (by rw [attempt]; decide)
    exact ⟨final, failure, failed, attempt,
      leaves_no_trace Crew.exists_meetAll_run failed otherwise⟩

end DocumentIngest
