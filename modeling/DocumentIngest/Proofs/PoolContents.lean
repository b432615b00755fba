import DocumentIngest.Assembly.Pool
import DocumentIngest.Proofs.Fallible

/-!
# What the assemblers of a pool hold

A pool that starts empty and is only ever asked for ingest documents of one list
holds assemblers of the right builder type, and every assembler holds under an
id what compiling the ingest document of that id gives.  The ids in the list
have to differ, for an assembler knows what it compiled by the id alone.
-/

namespace DocumentIngest

open Fallible

namespace Assembler

/-- What an assembler holds, and for which builder, is what compiling ingest
documents of a list gives. -/
def IsFaithful (documents : List IngestDocument) (assembler : Assembler) : Prop :=
  ∀ id compiled, Keyed.lookup assembler.prepared id = some compiled →
    ∃ document ∈ documents, document.id = id ∧ document.builder = assembler.builder ∧
      CompiledDocument.compile document = .ok compiled

theorem isFaithful_new (documents : List IngestDocument) (builder : BuilderType) :
    IsFaithful documents ⟨builder, []⟩ := by
  intro id compiled found
  simp at found

/-- Preparing an ingest document changes neither the builder nor what is there. -/
theorem builder_of_prepare {assembler prepared : Assembler} {document : IngestDocument}
    (succeeds : assembler.prepare document = .ok prepared) :
    prepared.builder = assembler.builder := by
  unfold prepare at succeeds
  split at succeeds
  · cases succeeds
    rfl
  · obtain ⟨compiled, _, rfl⟩ := map_eq_ok_iff.mp succeeds
    rfl

theorem isFaithful_of_prepare {documents : List IngestDocument} {assembler prepared : Assembler}
    {document : IngestDocument} (faithful : assembler.IsFaithful documents)
    (member : document ∈ documents) (ofBuilder : document.builder = assembler.builder)
    (succeeds : assembler.prepare document = .ok prepared) :
    prepared.IsFaithful documents := by
  unfold prepare at succeeds
  split at succeeds
  · cases succeeds
    exact faithful
  · obtain ⟨compiled, compiles, rfl⟩ := map_eq_ok_iff.mp succeeds
    intro id other found
    simp only [Keyed.lookup_insert] at found
    split at found
    · next same =>
        cases found
        exact ⟨document, member, same.symm, ofBuilder, compiles⟩
    · exact faithful id other found

theorem lookup_of_prepare {assembler prepared : Assembler} {document : IngestDocument}
    (succeeds : assembler.prepare document = .ok prepared) :
    ∃ compiled, Keyed.lookup prepared.prepared document.id = some compiled := by
  unfold prepare at succeeds
  split at succeeds
  · next known =>
      cases succeeds
      exact Option.isSome_iff_exists.mp known
  · obtain ⟨compiled, _, rfl⟩ := map_eq_ok_iff.mp succeeds
    exact ⟨compiled, by simp⟩

/-- Only an ingest document that does not compile cannot be prepared. -/
theorem prepare_succeeds (assembler : Assembler) {document : IngestDocument}
    {compiled : CompiledDocument} (compiles : CompiledDocument.compile document = .ok compiled) :
    ∃ prepared, assembler.prepare document = .ok prepared := by
  unfold prepare
  split
  · exact ⟨assembler, rfl⟩
  · exact ⟨_, by rw [compiles]; rfl⟩

end Assembler

namespace AssemblerPool

/-- The pools of a worker that is only ever given ingest documents of a list.
Assemblers that are out come back as they left, or never. -/
inductive Reachable (documents : List IngestDocument) : AssemblerPool → Prop where
  | start : Reachable documents {}
  | requested {pool : AssemblerPool} {document : IngestDocument} :
      Reachable documents pool → document ∈ documents →
        Reachable documents (pool.request document).1
  | lost {pool : AssemblerPool} {document : IngestDocument} :
      Reachable documents pool → document ∈ documents →
        Reachable documents (pool.takeOut document).1
  | returned {pool rest : AssemblerPool} {document : IngestDocument} {assembler : Assembler} :
      Reachable documents pool → document ∈ documents →
        pool.takeOut document = (rest, .ok assembler) →
          Reachable documents (rest.putBack assembler)

/-- Every assembler at rest is of the builder type it rests under, and faithful. -/
def IsFaithful (documents : List IngestDocument) (pool : AssemblerPool) : Prop :=
  ∀ builder assembler, pool.idle builder = some assembler →
    assembler.builder = builder ∧ assembler.IsFaithful documents

variable {documents : List IngestDocument} {pool : AssemblerPool}

theorem isFaithful_place {builder : BuilderType} {placed : Option Assembler}
    (faithful : pool.IsFaithful documents)
    (fits : ∀ assembler, placed = some assembler →
      assembler.builder = builder ∧ assembler.IsFaithful documents) :
    (pool.place builder placed).IsFaithful documents := by
  intro asked assembler found
  rw [idle_place] at found
  split at found
  · next same => exact same ▸ fits assembler found
  · exact faithful asked assembler found

theorem ready_fits (faithful : pool.IsFaithful documents) (builder : BuilderType) :
    (pool.ready builder).1.IsFaithful documents ∧
      (pool.ready builder).2.builder = builder ∧
        (pool.ready builder).2.IsFaithful documents := by
  unfold ready
  split
  · next assembler found =>
      exact ⟨faithful, faithful builder assembler found⟩
  · have fresh := Assembler.isFaithful_new documents builder
    have placed : (pool.place builder (some ⟨builder, []⟩)).IsFaithful documents :=
      isFaithful_place faithful (by
        intro assembler same
        cases same
        exact ⟨rfl, fresh⟩)
    -- the count of assemblers made has no part in what rests in the pool
    refine ⟨?_, rfl, fresh⟩
    intro asked assembler found
    exact placed asked assembler (by cases asked <;> exact found)

/-- What a request gives, if it gives anything, is faithful and fit for the
ingest document asked for; the pool stays faithful in any case. -/
theorem request_fits (faithful : pool.IsFaithful documents) {document : IngestDocument}
    (member : document ∈ documents) :
    (pool.request document).1.IsFaithful documents ∧
      ∀ assembler, (pool.request document).2 = .ok assembler →
        assembler.builder = document.builder ∧ assembler.IsFaithful documents ∧
          ∃ compiled, Keyed.lookup assembler.prepared document.id = some compiled := by
  obtain ⟨readyFaithful, readyBuilder, readyAssembler⟩ := ready_fits faithful document.builder
  unfold request
  cases prepares : (pool.ready document.builder).2.prepare document with
  | error fault =>
      simp only [prepares]
      exact ⟨readyFaithful, by simp⟩
  | ok prepared =>
      have builder := (Assembler.builder_of_prepare prepares).trans readyBuilder
      have preparedFaithful :=
        Assembler.isFaithful_of_prepare readyAssembler member readyBuilder.symm prepares
      simp only [prepares]
      refine ⟨isFaithful_place readyFaithful ?_, ?_⟩
      · intro assembler same
        cases same
        exact ⟨builder, preparedFaithful⟩
      · intro assembler same
        cases same
        exact ⟨builder, preparedFaithful, Assembler.lookup_of_prepare prepares⟩

theorem takeOut_fits (faithful : pool.IsFaithful documents) {document : IngestDocument}
    (member : document ∈ documents) :
    (pool.takeOut document).1.IsFaithful documents ∧
      ∀ assembler, (pool.takeOut document).2 = .ok assembler →
        assembler.builder = document.builder ∧ assembler.IsFaithful documents ∧
          ∃ compiled, Keyed.lookup assembler.prepared document.id = some compiled := by
  obtain ⟨restFaithful, fits⟩ := request_fits faithful member
  unfold takeOut
  rcases requested : pool.request document with ⟨rest, _ | assembler⟩
  · rw [requested] at restFaithful
    exact ⟨restFaithful, by simp⟩
  · rw [requested] at restFaithful fits
    refine ⟨isFaithful_place restFaithful (by simp), ?_⟩
    intro other same
    exact fits other same

theorem isFaithful_putBack {assembler : Assembler} (faithful : pool.IsFaithful documents)
    (assemblerFaithful : assembler.IsFaithful documents) :
    (pool.putBack assembler).IsFaithful documents :=
  isFaithful_place faithful (by
    intro other same
    cases same
    exact ⟨rfl, assemblerFaithful⟩)

theorem isFaithful_of_reachable (reachable : pool.Reachable documents) :
    pool.IsFaithful documents := by
  induction reachable with
  | start =>
      intro builder assembler found
      cases builder <;> simp [idle] at found
  | requested _ member ih => exact (request_fits ih member).1
  | lost _ member ih => exact (takeOut_fits ih member).1
  | returned _ member taken ih =>
      obtain ⟨restFaithful, fits⟩ := takeOut_fits ih member
      rw [taken] at restFaithful fits
      exact isFaithful_putBack restFaithful (fits _ rfl).2.1

/-- An ingest document that compiles is never refused. -/
theorem takeOut_succeeds (pool : AssemblerPool) {document : IngestDocument}
    {compiled : CompiledDocument} (compiles : CompiledDocument.compile document = .ok compiled) :
    ∃ assembler, (pool.takeOut document).2 = .ok assembler := by
  obtain ⟨prepared, prepares⟩ :=
    (pool.ready document.builder).2.prepare_succeeds compiles
  exact ⟨prepared, by simp only [takeOut, request, prepares]⟩

end AssemblerPool

end DocumentIngest
