import DocumentIngest.Proofs.OverlongLists
import DocumentIngest.Proofs.PoolContents
import DocumentIngest.Store.Memory
import DocumentIngest.Worker
import Mathlib.Data.List.Nodup

/-!
# What validation promises

A job that passes validation has ingest documents with different ids, all of
which compile to templates that call provided handlers only.  A worker that is
given such ingest documents therefore always gets a prepared assembler.  What can
still keep a work item from being built is that its dataset does not open, or that
a row asks `levels` for a list that cannot be held: counts are checked for sign and
fraction, not for size, and the build breaks off.
-/

namespace DocumentIngest

open Fallible

namespace CompiledDocument

/-- Whether the templates of a compiled ingest document, resolved at any row of
any dataset, ask for no handler but those provided. -/
structure AsksOnlyFor (provided : List Handler) (compiled : CompiledDocument) : Prop where
  id : ∀ context optionally name,
    compiled.id.resolve provided context optionally ≠ .error (.unknownHandler name)
  body : ∀ context name,
    compiled.body.resolve provided context compiled.optionalFields ≠ .error (.unknownHandler name)
  data : ∀ tree ∈ compiled.data, ∀ context name,
    tree.resolve provided context compiled.optionalFields ≠ .error (.unknownHandler name)
  dataKey : ∀ key ∈ compiled.dataKey, ∀ context optionally name,
    key.resolve provided context optionally ≠ .error (.unknownHandler name)

theorem asksOnlyFor_of_provides {provided : List Handler} {compiled : CompiledDocument}
    (provides : Handler.Provides provided compiled.handlerNames) :
    compiled.AsksOnlyFor provided where
  id := by
    intro context optionally name failed
    refine (Token.arises_of_resolve _ failed).ne_unknownHandler ?_ name rfl
    exact fun called member => provides called (by simp [handlerNames, member])
  body := by
    intro context name failed
    refine (TemplateTree.arises_of_resolve failed).ne_unknownHandler ?_ name rfl
    exact fun called member => provides called (by simp [handlerNames, member])
  data := by
    intro tree present context name failed
    refine (TemplateTree.arises_of_resolve failed).ne_unknownHandler ?_ name rfl
    intro called member
    have stored : compiled.data = some tree := present
    exact provides called (by simp [handlerNames, stored, member])
  dataKey := by
    intro key present context optionally name failed
    refine (Token.arises_of_resolve _ failed).ne_unknownHandler ?_ name rfl
    intro called member
    have stored : compiled.dataKey = some key := present
    exact provides called (by simp [handlerNames, stored, member])

theorem provides_of_firstUnknown {compiled : CompiledDocument} {builder : BuilderType}
    (noneUnknown : compiled.firstUnknown? builder = none) :
    Handler.Provides builder.handlers compiled.handlerNames := by
  intro name called absent
  have passes := List.find?_eq_none.mp noneUnknown name called
  simp [absent] at passes

end CompiledDocument

namespace Job

/-- Whether an ingest document compiles, and to what calls provided handlers only. -/
def Accepts (document : IngestDocument) : Prop :=
  ∃ compiled, CompiledDocument.compile document = .ok compiled ∧
    Handler.Provides document.builder.handlers compiled.handlerNames

/-- Ingest documents that pass are accepted one by one, and neither repeat an id
nor use one that was seen before. -/
theorem accepts_of_validateDocuments {seen : List String} {documents : List IngestDocument}
    (valid : validateDocuments seen documents = .ok ()) :
    (∀ document ∈ documents, Accepts document ∧ document.id ∉ seen) ∧
      (documents.map IngestDocument.id).Nodup := by
  induction documents generalizing seen with
  | nil => simp
  | cons document rest ih =>
      rw [validateDocuments] at valid
      split at valid
      · simp at valid
      next unseen =>
      obtain ⟨compiled, compiles, valid⟩ := bind_eq_ok_iff.mp valid
      split at valid
      · simp at valid
      next noneUnknown =>
      obtain ⟨accepted, different⟩ := ih valid
      have fresh : document.id ∉ seen := by simpa using unseen
      constructor
      · intro other member
        rcases List.mem_cons.mp member with rfl | member
        · exact ⟨⟨compiled, compiles, CompiledDocument.provides_of_firstUnknown noneUnknown⟩, fresh⟩
        · have otherFresh := (accepted other member).2
          exact ⟨(accepted other member).1, fun known => otherFresh (by simp [known])⟩
      · rw [List.map_cons, List.nodup_cons]
        refine ⟨?_, different⟩
        intro repeated
        obtain ⟨other, member, same⟩ := List.mem_map.mp repeated
        exact (accepted other member).2 (by simp [same])

variable {job : Job}

theorem validateDocuments_of_validate (valid : job.validate = .ok ()) :
    validateDocuments [] job.documents = .ok () := by
  unfold validate at valid
  split at valid
  · simp at valid
  · exact valid

theorem accepts_of_validate (valid : job.validate = .ok ()) {document : IngestDocument}
    (member : document ∈ job.documents) : Accepts document :=
  ((accepts_of_validateDocuments (validateDocuments_of_validate valid)).1 document member).1

/-- Ingest documents of a validated job are told apart by their ids. -/
theorem eq_of_id_eq (valid : job.validate = .ok ()) {first second : IngestDocument}
    (firstMember : first ∈ job.documents) (secondMember : second ∈ job.documents)
    (same : first.id = second.id) : first = second :=
  List.inj_on_of_nodup_map
    (accepts_of_validateDocuments (validateDocuments_of_validate valid)).2
    firstMember secondMember same

end Job

namespace AssemblerPool

variable {job : Job} {pool : AssemblerPool} {document : IngestDocument}

/-- From any pool of a worker, an ingest document of a validated job gets an
assembler of its builder type that holds what compiling it gives. -/
theorem takeOut_of_validate (valid : job.validate = .ok ())
    (reachable : pool.Reachable job.documents) (member : document ∈ job.documents) :
    ∃ rest assembler compiled, pool.takeOut document = (rest, .ok assembler) ∧
      assembler.builder = document.builder ∧
        CompiledDocument.compile document = .ok compiled ∧
          Keyed.lookup assembler.prepared document.id = some compiled := by
  obtain ⟨compiled, compiles, _⟩ := Job.accepts_of_validate valid member
  obtain ⟨assembler, taken⟩ := takeOut_succeeds pool compiles
  obtain ⟨builder, faithful, held, found⟩ :=
    (takeOut_fits (isFaithful_of_reachable reachable) member).2 assembler taken
  obtain ⟨source, sourceMember, sourceId, _, sourceCompiles⟩ := faithful _ _ found
  have same : source = document := Job.eq_of_id_eq valid sourceMember member sourceId
  subst source
  exact ⟨_, assembler, held, Prod.ext rfl taken, builder, sourceCompiles, found⟩

end AssemblerPool

theorem BuildOutcome.state_overRows (count : Nat)
    (addRow : BuildOutcome → Nat → BuildOutcome) :
    (BuildOutcome.overRows count addRow).state = .done :=
  rfl

namespace Assembler

theorem state_assemble (builder : BuilderType) (compiled : CompiledDocument)
    (dataset : Dataset) (parameters : Json.Fields) :
    (assemble builder compiled dataset parameters).state = .done := by
  cases builder with
  | rowPerDocument => exact BuildOutcome.state_overRows _ _
  | nestedRows => exact BuildOutcome.state_overRows _ _

theorem build_of_lookup {assembler : Assembler} {document : IngestDocument}
    {compiled : CompiledDocument}
    (held : Keyed.lookup assembler.prepared document.id = some compiled) (item : WorkItem)
    (dataset : Dataset) :
    assembler.build document item dataset =
      .ok (assemble assembler.builder compiled dataset (item.parameterBag document)) := by
  simp only [build, held]

theorem breaksOff_of_lookup {assembler : Assembler} {document : IngestDocument}
    {compiled : CompiledDocument}
    (held : Keyed.lookup assembler.prepared document.id = some compiled) (item : WorkItem)
    (dataset : Dataset) :
    assembler.breaksOff document item dataset =
      overruns assembler.builder compiled dataset (item.parameterBag document) := by
  simp only [breaksOff, held, Option.any_some]

end Assembler

namespace Worker

variable {σ : Type} [DocumentStore σ] {job : Job} {pool : AssemblerPool}
  {document : IngestDocument}

/-- What comes of a dataset by what an ingest document compiles to. -/
def outcomeOf (document : IngestDocument) (compiled : CompiledDocument) (item : WorkItem)
    (dataset : Dataset) : Except Failure BuildOutcome :=
  if Assembler.overruns document.builder compiled dataset (item.parameterBag document) then
    .error (brokenOff item)
  else
    .ok (Assembler.assemble document.builder compiled dataset (item.parameterBag document))

theorem outcomeOf_eq_error_iff {compiled : CompiledDocument} {item : WorkItem}
    {dataset : Dataset} {failure : Failure} :
    outcomeOf document compiled item dataset = .error failure ↔
      failure = brokenOff item ∧
        compiled.AsksTooMuch document.builder dataset (item.parameterBag document) := by
  rw [← CompiledDocument.overruns_iff, outcomeOf]
  split
  · next overruns => simp [overruns, eq_comm]
  · next fits => simp [fits]

theorem state_of_outcomeOf {compiled : CompiledDocument} {item : WorkItem} {dataset : Dataset}
    {outcome : BuildOutcome} (succeeds : outcomeOf document compiled item dataset = .ok outcome) :
    outcome.state = .done := by
  unfold outcomeOf at succeeds
  split at succeeds
  · cases succeeds
  · cases succeeds
    exact Assembler.state_assemble _ _ _ _

/-- Building for an ingest document of a validated job opens the dataset, which
may fail, and then assembles it by the compiled templates, which may break off. -/
theorem build_of_validate (valid : job.validate = .ok ())
    (reachable : pool.Reachable job.documents) (member : document ∈ job.documents)
    (archive : Archive σ) (item : WorkItem) :
    ∃ later compiled, later.Reachable job.documents ∧
      CompiledDocument.compile document = .ok compiled ∧
        build pool archive document item =
          (later, (openDataset archive item document).1,
            (openDataset archive item document).2 >>= outcomeOf document compiled item) := by
  obtain ⟨rest, assembler, compiled, taken, builder, compiles, held⟩ :=
    AssemblerPool.takeOut_of_validate valid reachable member
  rcases opened : openDataset archive item document with ⟨archive', _ | dataset⟩
  · exact ⟨pool, compiled, reachable, compiles, by simp only [build, opened]; rfl⟩
  have breaksOff := Assembler.breaksOff_of_lookup held item dataset
  rw [builder] at breaksOff
  by_cases overruns : Assembler.overruns document.builder compiled dataset
    (item.parameterBag document) = true
  · have lost := reachable.lost member
    rw [taken] at lost
    refine ⟨rest, compiled, lost, compiles, ?_⟩
    simp only [build, opened, assemble, taken, breaksOff, overruns, if_true]
    simp [bind, Except.bind, outcomeOf, overruns]
  · refine ⟨rest.putBack assembler, compiled, reachable.returned member taken, compiles, ?_⟩
    simp only [build, opened, assemble, taken, breaksOff, overruns,
      Assembler.build_of_lookup held, builder]
    simp [bind, Except.bind, outcomeOf, overruns, attempting, Except.mapError]

theorem reachable_build (valid : job.validate = .ok ())
    (reachable : pool.Reachable job.documents) (member : document ∈ job.documents)
    (archive : Archive σ) (item : WorkItem) :
    (build pool archive document item).1.Reachable job.documents := by
  obtain ⟨later, _, reachableLater, _, built⟩ :=
    build_of_validate valid reachable member archive item
  rw [built]
  exact reachableLater

end Worker

/-- Validation is sound up to the size of lists.  Every ingest document of a validated
job compiles to templates that ask for provided handlers only, and every assembler can
be prepared for it.  Those from the pool of a worker build any dataset to the end in
which no row asks for more levels than a list can hold, and a worker fails to build an
item only if its dataset does not open or has such a row. -/
theorem Job.validate_sound {job : Job} (valid : job.validate = .ok ())
    {document : IngestDocument} (member : document ∈ job.documents) :
    (∀ assembler : Assembler, ∃ prepared, assembler.prepare document = .ok prepared) ∧
    ∃ compiled, CompiledDocument.compile document = .ok compiled ∧
      compiled.AsksOnlyFor document.builder.handlers ∧
      ∀ pool : AssemblerPool, pool.Reachable job.documents →
        (∃ assembler, (pool.takeOut document).2 = .ok assembler ∧
          assembler.builder = document.builder ∧
            ∀ item dataset, ¬compiled.AsksTooMuch document.builder dataset
                (item.parameterBag document) →
              assembler.breaksOff document item dataset = false ∧
                ∃ outcome, assembler.build document item dataset = .ok outcome ∧
                  outcome.state = .done) ∧
        ∀ (σ : Type) [DocumentStore σ] (archive : Archive σ) (item : WorkItem),
          (∀ outcome, (Worker.build pool archive document item).2.2 = .ok outcome →
            outcome.state = .done) ∧
          ∀ failure, (Worker.build pool archive document item).2.2 = .error failure ↔
            (Worker.openDataset archive item document).2 = .error failure ∨
              ∃ dataset, (Worker.openDataset archive item document).2 = .ok dataset ∧
                failure = Worker.brokenOff item ∧
                  compiled.AsksTooMuch document.builder dataset (item.parameterBag document) := by
  obtain ⟨compiled, compiles, provides⟩ := accepts_of_validate valid member
  refine ⟨fun assembler => assembler.prepare_succeeds compiles, compiled, compiles,
    CompiledDocument.asksOnlyFor_of_provides provides, ?_⟩
  intro pool reachable
  constructor
  · obtain ⟨rest, assembler, again, taken, builder, compilesAgain, held⟩ :=
      AssemblerPool.takeOut_of_validate valid reachable member
    cases compiles.symm.trans compilesAgain
    refine ⟨assembler, by rw [taken], builder, ?_⟩
    intro item dataset modest
    refine ⟨?_, _, Assembler.build_of_lookup held item dataset, Assembler.state_assemble _ _ _ _⟩
    rw [Assembler.breaksOff_of_lookup held, builder, Bool.eq_false_iff]
    exact fun overruns => modest (CompiledDocument.overruns_iff.mp overruns)
  · intro σ _ archive item
    obtain ⟨later, again, _, compilesAgain, built⟩ :=
      Worker.build_of_validate valid reachable member archive item
    cases compiles.symm.trans compilesAgain
    rw [built]
    constructor
    · intro outcome succeeds
      obtain ⟨dataset, _, succeeds⟩ := bind_eq_ok_iff.mp succeeds
      exact Worker.state_of_outcomeOf succeeds
    · intro failure
      simp only [bind_eq_error_iff, Worker.outcomeOf_eq_error_iff]

/-- Stations with their readings under `data`, each reading by its name. -/
def IngestDocument.stations : IngestDocument :=
  { IngestDocument.blank with
    id := "stations"
    builder := .nestedRows
    subset := "north"
    template := .object
      [("id", .string "ST:&upper:*station"),
        ("data", .object [("at", .string "&valid_epoch|time,60"), ("t", .string "*temp")])] }

/-- A job with the stations as its only ingest document. -/
def Job.stations : Job :=
  ⟨"daily", "north", [.stations]⟩

/-- Soundings with as many levels as their rows say. -/
def IngestDocument.soundings : IngestDocument :=
  { IngestDocument.blank with
    id := "soundings"
    builder := .rowPerDocument
    template := .object [("id", .string "*k"), ("level", .string "&levels|*n")] }

/-- A job with the soundings as its only ingest document. -/
def Job.soundings : Job :=
  ⟨"daily", "", [.soundings]⟩

/-- The file that holds a value. -/
def FileNode.ofJson (value : Json) (modified : Int) : FileNode :=
  .file value.compact.toUTF8.data.toList modified

/-- A file of two soundings, the second of which has far too many levels. -/
def FileTree.soundings : FileTree :=
  [("in", .folder [("a.json", .ofJson (.array
    [.object [("k", .string "few"), ("n", .ofNat 2)],
      .object [("k", .string "many"), ("n", .ofNat (10 ^ 18))]]) 1000)])]

def WorkItem.soundings : WorkItem :=
  .ofPath "in/a.json" 1000 "soundings"

theorem Job.validate_soundings : Job.soundings.validate = .ok () :=
  eq_ok_of_isOk (by decide +kernel)

/-- The file opens, and yet it is not built, although the first of its rows would be fine. -/
theorem Worker.soundings_notBuilt :
    (openDataset (⟨{}, .soundings, 0⟩ : Archive MemoryStore) .soundings .soundings).2.isOk = true ∧
      ∃ failure, (build {} (⟨{}, .soundings, 0⟩ : Archive MemoryStore) .soundings
        .soundings).2.2 = .error failure := by
  have fails : (build {} (⟨{}, .soundings, 0⟩ : Archive MemoryStore) .soundings
      .soundings).2.2.isOk = false := by decide +kernel
  refine ⟨by decide +kernel, ?_⟩
  rcases built : (build {} (⟨{}, .soundings, 0⟩ : Archive MemoryStore) .soundings
    .soundings).2.2 with failure | outcome
  · exact ⟨failure, rfl⟩
  · rw [built] at fails
    cases fails

/-- Stations are prepared with all their handlers, and the soundings break off. -/
theorem Job.validate_sound_stations :
    (Job.stations.validate = .ok () ∧ IngestDocument.stations ∈ Job.stations.documents ∧
      ∃ compiled, CompiledDocument.compile .stations = .ok compiled ∧
        compiled.AsksOnlyFor BuilderType.nestedRows.handlers) ∧
    Job.soundings.validate = .ok () ∧ IngestDocument.soundings ∈ Job.soundings.documents ∧
      (Worker.build {} (⟨{}, .soundings, 0⟩ : Archive MemoryStore) .soundings .soundings).2.2 =
        .error (Worker.brokenOff .soundings) := by
  constructor
  · have valid : Job.stations.validate = .ok () := eq_ok_of_isOk (by decide +kernel)
    have member : IngestDocument.stations ∈ Job.stations.documents := List.mem_singleton_self _
    obtain ⟨compiled, compiles, asksOnlyFor, _⟩ := (Job.validate_sound valid member).2
    exact ⟨valid, member, compiled, compiles, asksOnlyFor⟩
  · have member : IngestDocument.soundings ∈ Job.soundings.documents := List.mem_singleton_self _
    refine ⟨validate_soundings, member, ?_⟩
    obtain ⟨opens, failure, fails⟩ := Worker.soundings_notBuilt
    obtain ⟨_, _, _, fromPool⟩ := (Job.validate_sound validate_soundings member).2
    have reasons := ((fromPool {} .start).2 MemoryStore ⟨{}, .soundings, 0⟩ .soundings).2 failure
    rcases reasons.mp fails with notOpened | ⟨_, _, brokeOff, _⟩
    · rw [notOpened] at opens
      cases opens
    · rw [fails, brokeOff]

/-- The size of lists does matter: a dataset that opens may still not be built. -/
theorem Job.not_buildsWhatOpens :
    ¬∀ job : Job, job.validate = .ok () → ∀ document ∈ job.documents,
      ∀ pool : AssemblerPool, pool.Reachable job.documents →
        ∀ (archive : Archive MemoryStore) (item : WorkItem) (failure : Failure),
          (Worker.build pool archive document item).2.2 = .error failure →
            (Worker.openDataset archive item document).2 = .error failure := by
  intro opensOnly
  obtain ⟨opens, failure, fails⟩ := Worker.soundings_notBuilt
  rw [opensOnly .soundings validate_soundings .soundings (List.mem_singleton_self _) {} .start _ _
    _ fails] at opens
  cases opens

end DocumentIngest
