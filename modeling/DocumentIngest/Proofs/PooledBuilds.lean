import DocumentIngest.Proofs.ValidatedJobs
import Mathlib.Data.Finset.Card

/-!
# Builds through a pool

A worker builds one item after another with the assemblers of its pool, which
remember what they compiled.  None of this shows: whatever was built before, and
whichever assemblers were lost on the way, a build gives what an assembler gives
that is made for it alone.  A pool makes an assembler of a builder type when it is
first asked for one, and again whenever the last one was lost.
-/

namespace DocumentIngest

/-- What becomes of the assembler that a build is done with. -/
inductive AssemblerUse where
  | inPlace
  | broughtBack
  | lost
deriving DecidableEq

/-- A build that is done with an assembler of a pool. -/
structure PooledBuild where
  use : AssemblerUse
  document : IngestDocument
  item : WorkItem
  dataset : Dataset

namespace PooledBuild

abbrev builder (build : PooledBuild) : BuilderType :=
  build.document.builder

/-- What an assembler builds. -/
def doneBy (build : PooledBuild) (assembler : Assembler) : Except Failure BuildOutcome :=
  assembler.build build.document build.item build.dataset

/-- What an assembler builds that is made and prepared for this build alone. -/
def doneAlone (build : PooledBuild) : Except Failure BuildOutcome :=
  match (Assembler.mk build.builder []).prepare build.document with
  | .error fault => .error (.of (.setup fault))
  | .ok assembler => build.doneBy assembler

/-- The use of the last assembler of a builder type. -/
def lastUse? (earlier : List PooledBuild) (builder : BuilderType) : Option AssemblerUse :=
  (earlier.reverse.find? fun build => build.builder == builder).map use

/-- How many builds of a history come after the loss of the last assembler of
their builder type. -/
def renewals (builds : List PooledBuild) : Nat :=
  (List.range builds.length).countP fun position =>
    builds[position]?.any fun build =>
      lastUse? (builds.take position) build.builder == some .lost

/-- The builder types that a history asks for. -/
def builders (builds : List PooledBuild) : Finset BuilderType :=
  (builds.map builder).toFinset

theorem lastUse?_concat (earlier : List PooledBuild) (build : PooledBuild)
    (asked : BuilderType) :
    lastUse? (earlier ++ [build]) asked =
      if build.builder = asked then some build.use else lastUse? earlier asked := by
  by_cases same : build.builder = asked <;> simp [lastUse?, same]

theorem lastUse?_eq_none_iff {earlier : List PooledBuild} {asked : BuilderType} :
    lastUse? earlier asked = none ↔ asked ∉ builders earlier := by
  simp [lastUse?, builders]

theorem builders_concat (earlier : List PooledBuild) (build : PooledBuild) :
    builders (earlier ++ [build]) = insert build.builder (builders earlier) := by
  ext asked
  simp [builders]

theorem renewals_concat (earlier : List PooledBuild) (build : PooledBuild) :
    renewals (earlier ++ [build]) =
      renewals earlier + if lastUse? earlier build.builder = some .lost then 1 else 0 := by
  have before : ∀ position ∈ List.range earlier.length,
      ((earlier ++ [build])[position]?.any fun other =>
          lastUse? ((earlier ++ [build]).take position) other.builder == some .lost) =
        earlier[position]?.any fun other =>
          lastUse? (earlier.take position) other.builder == some .lost := by
    intro position inside
    have inside := List.mem_range.mp inside
    rw [List.getElem?_append_left inside, List.take_append_of_le_length (Nat.le_of_lt inside)]
  rw [renewals, List.length_append, List.length_singleton, List.range_succ, List.countP_append,
    renewals]
  congr 1
  · exact List.countP_congr fun position inside => by rw [before position inside]
  · simp

end PooledBuild

namespace AssemblerPool

/-- Does a build with an assembler of a pool. -/
def perform (pool : AssemblerPool) (build : PooledBuild) :
    AssemblerPool × Except Failure BuildOutcome :=
  match build.use with
  | .inPlace =>
      match pool.request build.document with
      | (pool, .error fault) => (pool, .error (.of (.setup fault)))
      | (pool, .ok assembler) => (pool, build.doneBy assembler)
  | .broughtBack =>
      match pool.takeOut build.document with
      | (pool, .error fault) => (pool, .error (.of (.setup fault)))
      | (pool, .ok assembler) => (pool.putBack assembler, build.doneBy assembler)
  | .lost =>
      match pool.takeOut build.document with
      | (pool, .error fault) => (pool, .error (.of (.setup fault)))
      | (pool, .ok assembler) => (pool, build.doneBy assembler)

/-- Does builds one after another. -/
def performAll (pool : AssemblerPool) :
    List PooledBuild → AssemblerPool × List (Except Failure BuildOutcome)
  | [] => (pool, [])
  | build :: rest =>
      let (pool, outcome) := pool.perform build
      let (pool, outcomes) := pool.performAll rest
      (pool, outcome :: outcomes)

theorem created_ready (pool : AssemblerPool) (builder : BuilderType) :
    (pool.ready builder).1.created =
      pool.created + if (pool.idle builder).isSome then 0 else 1 := by
  cases rests : pool.idle builder <;> simp [ready, rests]

theorem idle_ready (pool : AssemblerPool) (builder asked : BuilderType) :
    (pool.ready builder).1.idle asked =
      if asked = builder then some (pool.ready builder).2 else pool.idle asked := by
  cases rests : pool.idle builder with
  | some assembler =>
      by_cases same : asked = builder
      · simp [ready, rests, same]
      · simp [ready, rests, same]
  | none =>
      have placed := idle_place pool builder asked (some ⟨builder, []⟩)
      rw [ready, rests]
      -- the count of assemblers made has no part in what rests in the pool
      cases asked <;> exact placed

/-- A request that succeeds leaves an assembler of its builder type at rest. -/
theorem created_and_idle_of_request {pool served : AssemblerPool} {document : IngestDocument}
    {assembler : Assembler} (requested : pool.request document = (served, .ok assembler)) :
    (served.created =
        pool.created + if (pool.idle document.builder).isSome then 0 else 1) ∧
      ∀ asked, served.idle asked =
        if asked = document.builder then some assembler else pool.idle asked := by
  have made := created_ready pool document.builder
  have rests := idle_ready pool document.builder
  unfold request at requested
  cases prepares : (pool.ready document.builder).2.prepare document with
  | error fault => simp [prepares] at requested
  | ok prepared =>
      simp only [prepares, Prod.mk.injEq, Except.ok.injEq] at requested
      obtain ⟨rfl, rfl⟩ := requested
      refine ⟨by rw [created_place, made], ?_⟩
      intro asked
      rw [idle_place, rests]
      split <;> rfl

/-- What a build whose assembler could be prepared makes of a pool. -/
structure LeftBy (build : PooledBuild) (before after : AssemblerPool) : Prop where
  created : after.created =
    before.created + if (before.idle build.builder).isSome then 0 else 1
  rests : ∀ asked, (after.idle asked).isSome =
    if asked = build.builder then decide (build.use ≠ .lost) else (before.idle asked).isSome

variable {job : Job} {pool : AssemblerPool} {build : PooledBuild}

theorem perform_of_request {served : AssemblerPool} {assembler : Assembler}
    (requested : pool.request build.document = (served, .ok assembler))
    (sameBuilder : assembler.builder = build.builder) :
    (pool.perform build).2 = build.doneBy assembler ∧ LeftBy build pool (pool.perform build).1 := by
  obtain ⟨made, rests⟩ := created_and_idle_of_request requested
  have taken : pool.takeOut build.document =
      (served.place build.builder none, .ok assembler) := by
    rw [takeOut, requested]
  cases used : build.use with
  | inPlace =>
      have left : pool.perform build = (served, build.doneBy assembler) := by
        simp only [perform, used, requested]
      rw [left]
      refine ⟨rfl, made, fun asked => ?_⟩
      rw [rests, used]
      split <;> rfl
  | broughtBack =>
      have left : pool.perform build =
          ((served.place build.builder none).place build.builder (some assembler),
            build.doneBy assembler) := by
        simp only [perform, used, taken, putBack, sameBuilder]
      rw [left]
      refine ⟨rfl, by rw [created_place, created_place, made], fun asked => ?_⟩
      rw [idle_place, idle_place, rests, used]
      split <;> rfl
  | lost =>
      have left : pool.perform build =
          (served.place build.builder none, build.doneBy assembler) := by
        simp only [perform, used, taken]
      rw [left]
      refine ⟨rfl, by rw [created_place, made], fun asked => ?_⟩
      rw [idle_place, rests, used]
      split <;> rfl

theorem reachable_perform (reachable : pool.Reachable job.documents)
    (member : build.document ∈ job.documents) :
    (pool.perform build).1.Reachable job.documents := by
  cases used : build.use with
  | inPlace =>
      have next := reachable.requested member
      rcases requested : pool.request build.document with ⟨rest, _ | assembler⟩ <;>
        simpa only [perform, used, requested] using next
  | broughtBack =>
      have next := reachable.lost member
      rcases taken : pool.takeOut build.document with ⟨rest, _ | assembler⟩
      · simpa only [perform, used, taken] using next
      · simpa only [perform, used, taken] using reachable.returned member taken
  | lost =>
      have next := reachable.lost member
      rcases taken : pool.takeOut build.document with ⟨rest, _ | assembler⟩ <;>
        simpa only [perform, used, taken] using next

/-- A build for an ingest document of a validated job gives the same with any pool
of a worker as it gives alone. -/
theorem perform_of_validate (valid : job.validate = .ok ())
    (reachable : pool.Reachable job.documents) (member : build.document ∈ job.documents) :
    (∃ outcome, build.doneAlone = .ok outcome) ∧
      (pool.perform build).2 = build.doneAlone ∧ LeftBy build pool (pool.perform build).1 := by
  obtain ⟨rest, assembler, compiled, taken, sameBuilder, compiles, held⟩ :=
    takeOut_of_validate valid reachable member
  obtain ⟨served, requested⟩ : ∃ served, pool.request build.document = (served, .ok assembler) := by
    rcases requested : pool.request build.document with ⟨served, fault | other⟩
    · simp [takeOut, requested] at taken
    · simp only [takeOut, requested, Prod.mk.injEq, Except.ok.injEq] at taken
      exact ⟨served, by rw [taken.2]⟩
  obtain ⟨built, left⟩ := perform_of_request requested sameBuilder
  have alone : build.doneAlone = .ok (Assembler.assemble build.builder compiled build.dataset
      (build.item.parameterBag build.document)) := by
    have prepares : (Assembler.mk build.builder []).prepare build.document =
        .ok ⟨build.builder, [(build.document.id, compiled)]⟩ := by
      rw [Assembler.prepare, compiles]
      rfl
    have holds : Keyed.lookup [(build.document.id, compiled)] build.document.id = some compiled :=
      if_pos rfl
    rw [PooledBuild.doneAlone, prepares]
    exact Assembler.build_of_lookup holds build.item build.dataset
  refine ⟨⟨_, alone⟩, ?_, left⟩
  rw [built, alone, PooledBuild.doneBy, Assembler.build_of_lookup held, sameBuilder]

/-- What a pool shows of the builds that were done with it. -/
structure Reflects (earlier : List PooledBuild) (pool : AssemblerPool) : Prop where
  created : pool.created =
    (PooledBuild.builders earlier).card + PooledBuild.renewals earlier
  rests : ∀ asked, (pool.idle asked).isSome =
    (PooledBuild.lastUse? earlier asked).any (· ≠ .lost)

theorem reflects_start : Reflects [] {} where
  created := rfl
  rests := by
    intro asked
    cases asked <;> rfl

theorem Reflects.concat {earlier : List PooledBuild} {after : AssemblerPool}
    (reflects : pool.Reflects earlier) (left : LeftBy build pool after) :
    after.Reflects (earlier ++ [build]) where
  created := by
    have rested := reflects.rests build.builder
    rw [left.created, reflects.created, PooledBuild.builders_concat, PooledBuild.renewals_concat,
      rested]
    cases last : PooledBuild.lastUse? earlier build.builder with
    | none =>
        have fresh := PooledBuild.lastUse?_eq_none_iff.mp last
        have grown := Finset.card_insert_of_notMem fresh
        simp [grown]
        omega
    | some use =>
        have known : build.builder ∈ PooledBuild.builders earlier := by
          by_contra never
          rw [PooledBuild.lastUse?_eq_none_iff.mpr never] at last
          cases last
        rw [Finset.insert_eq_of_mem known]
        cases use <;> simp [Nat.add_assoc]
  rests := by
    intro asked
    rw [left.rests, PooledBuild.lastUse?_concat, reflects.rests]
    by_cases same : build.builder = asked
    · rw [if_pos same, if_pos same.symm]
      rfl
    · rw [if_neg same, if_neg (Ne.symm same)]

theorem reflects_performAll (valid : job.validate = .ok ()) {earlier later : List PooledBuild}
    (reachable : pool.Reachable job.documents) (reflects : pool.Reflects earlier)
    (members : ∀ build ∈ later, build.document ∈ job.documents) :
    (pool.performAll later).2 = later.map PooledBuild.doneAlone ∧
      (pool.performAll later).1.Reflects (earlier ++ later) := by
  -- induction over the builds to come, with what was built before as part of the invariant
  induction later generalizing pool earlier with
  | nil => simpa [performAll] using reflects
  | cons build rest ih =>
      have member := members build List.mem_cons_self
      obtain ⟨_, built, left⟩ := perform_of_validate valid reachable member
      obtain ⟨outcomes, reflected⟩ := ih (reachable_perform reachable member)
        (reflects.concat left) fun other behind => members other (List.mem_cons_of_mem _ behind)
      rw [List.append_assoc] at reflected
      refine ⟨?_, reflected⟩
      simp only [performAll, outcomes, built, List.map_cons]

end AssemblerPool

open AssemblerPool in
/-- Pooling is transparent.  Whatever builds for the ingest documents of a validated job
are done with one pool, each succeeds and gives what it gives with an assembler of its
own.  The pool makes an assembler for each builder type it is asked for, and one for each
time that the last one of a type was lost. -/
theorem AssemblerPool.performAll_transparent {job : Job} (valid : job.validate = .ok ())
    (builds : List PooledBuild) (members : ∀ build ∈ builds, build.document ∈ job.documents) :
    (performAll {} builds).2 = builds.map PooledBuild.doneAlone ∧
      (∀ build ∈ builds, ∃ outcome, build.doneAlone = .ok outcome) ∧
      (performAll {} builds).1.created =
        (PooledBuild.builders builds).card + PooledBuild.renewals builds := by
  obtain ⟨outcomes, reflected⟩ := reflects_performAll valid .start reflects_start members
  refine ⟨outcomes, ?_, reflected.created⟩
  intro build member
  exact (perform_of_validate valid .start (members build member)).1

/-- A job of both builder types, with two ingest documents of one of them. -/
def Job.bothWays : Job :=
  ⟨"daily", "north",
    [.stations,
      { IngestDocument.stations with
        id := "coast"
        template := .object [("id", .string "CO:*station")] },
      { IngestDocument.blank with
        id := "readings"
        template := .object [("id", .string "RD:*station"), ("t", .string "*temp")] }]⟩

/-- Builds over one row, the first of which loses its assembler. -/
def PooledBuild.bothWays : List PooledBuild :=
  (Job.bothWays.documents ++ [IngestDocument.stations]).zipWith
    (fun document use =>
      ⟨use, document, .ofIdentifier "raw" document.id,
        .rows ⟨[], [[("name", .string "noon"), ("station", .string "a"), ("temp", .ofNat 3)]]⟩⟩)
    [.lost, .broughtBack, .inPlace, .inPlace]

theorem AssemblerPool.performAll_transparent_bothWays :
    (performAll {} PooledBuild.bothWays).2 = PooledBuild.bothWays.map PooledBuild.doneAlone ∧
      (performAll {} PooledBuild.bothWays).1.created = 3 := by
  have valid : Job.bothWays.validate = .ok () := Fallible.eq_ok_of_isOk (by decide +kernel)
  have members : ∀ build ∈ PooledBuild.bothWays, build.document ∈ Job.bothWays.documents := by
    decide +kernel
  obtain ⟨same, _, created⟩ := performAll_transparent valid PooledBuild.bothWays members
  exact ⟨same, created.trans (by decide +kernel)⟩

end DocumentIngest
