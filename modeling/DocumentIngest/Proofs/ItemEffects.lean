import DocumentIngest.Proofs.ItemProcessing
import DocumentIngest.Run
import Mathlib.Data.List.Lattice
import Mathlib.Data.List.Pairwise

/-!
# What a work item does by itself

Which documents come of a work item depends on the job, on the files and on the one
record it reads, and neither on the worker nor on what its pool holds.  So every work
item has, for a given store, the documents it builds, the marker it leaves and the
counts it adds to a report.  Work items that write under different ids may be written
in either order.
-/

namespace DocumentIngest

namespace MemoryStore

theorem lookup_overlay_of_not_mem {entries : List (String × Json)} {id : String}
    (other : id ∉ Keyed.keys entries) (documents : DocumentMap) :
    Keyed.lookup (overlay documents entries) id = Keyed.lookup documents id := by
  induction entries generalizing documents with
  | nil => rfl
  | cons entry rest ih =>
      obtain ⟨different, behind⟩ := not_or.mp fun known => other (List.mem_cons.mpr known)
      have laid := ih behind (Keyed.insert documents entry.1 entry.2)
      rwa [Keyed.lookup_insert_of_ne _ _ different] at laid

theorem overlay_insert {entries : List (String × Json)} {id : String}
    (other : id ∉ Keyed.keys entries) (documents : DocumentMap) (document : Json) :
    overlay (Keyed.insert documents id document) entries =
      Keyed.insert (overlay documents entries) id document := by
  induction entries generalizing documents with
  | nil => rfl
  | cons entry rest ih =>
      obtain ⟨different, behind⟩ := not_or.mp fun known => other (List.mem_cons.mpr known)
      have laid := ih behind (Keyed.insert documents entry.1 entry.2)
      rwa [Keyed.insert_comm documents (Ne.symm different)] at laid

theorem overlay_comm {first second : List (String × Json)}
    (apart : (Keyed.keys first).Disjoint (Keyed.keys second)) (documents : DocumentMap) :
    overlay (overlay documents first) second = overlay (overlay documents second) first := by
  induction second generalizing documents with
  | nil => rfl
  | cons entry rest ih =>
      obtain ⟨other, behind⟩ := List.disjoint_cons_right.mp apart
      have ahead := overlay_insert other documents entry.2
      have swapped := ih behind (Keyed.insert documents entry.1 entry.2)
      rwa [ahead] at swapped

end MemoryStore

namespace Job

/-- The ids of the stored records that a work item reads. -/
def reads (job : Job) (item : WorkItem) : List String :=
  match item.source, job.document? item.documentId with
  | .identifier id, some _ => [id]
  | _, _ => []

/-- What building a work item gives a worker who has built nothing before. -/
def builds (job : Job) (archive : Archive MemoryStore) (item : WorkItem) :
    Except Failure BuildOutcome :=
  match job.document? item.documentId with
  | none => .error (.of (.setup (.unknownIngestDocument item.documentId)))
  | some document => (Worker.build {} archive document item).2.2

/-- The marker that a work item leaves. -/
def marker? (job : Job) (item : WorkItem) : Option DataFileRecord :=
  (job.document? item.documentId).bind item.marker

def builtIds (job : Job) (archive : Archive MemoryStore) (item : WorkItem) : List String :=
  Keyed.keys (Worker.documentsOf (job.builds archive item))

def markerIds (job : Job) (item : WorkItem) : List String :=
  (job.marker? item).toList.map DataFileRecord.id

/-- The documents and the marker that a work item writes, under their ids. -/
def leaves (job : Job) (archive : Archive MemoryStore) (item : WorkItem) :
    List (String × Json) :=
  Destination.entries (Worker.documentsOf (job.builds archive item)) (job.marker? item)

def writtenIds (job : Job) (archive : Archive MemoryStore) (item : WorkItem) : List String :=
  job.builtIds archive item ++ job.markerIds item

/-- The counts that a work item adds to a report if nothing is lost. -/
def notes (job : Job) (archive : Archive MemoryStore) (item : WorkItem) : WorkerReport :=
  ({} : WorkerReport).noteItem item (job.builds archive item)
    (.written (Worker.documentsOf (job.builds archive item)).length)

/-- A store after a work item was written to it. -/
def land (job : Job) (archive : Archive MemoryStore) (store : MemoryStore) (item : WorkItem) :
    MemoryStore :=
  { store with documents := MemoryStore.overlay store.documents (job.leaves archive item) }

/-- Whether work items keep out of each other's way: no two of them build a document
with one id or leave markers with one id, no built document has the id of a marker,
and none reads a record that another one writes. -/
structure KeepsApart (job : Job) (archive : Archive MemoryStore) (items : List WorkItem) :
    Prop where
  built : items.Pairwise fun first second =>
    (job.builtIds archive first).Disjoint (job.builtIds archive second)
  markers : items.Pairwise fun first second =>
    (job.markerIds first).Disjoint (job.markerIds second)
  kinds : ∀ first ∈ items, ∀ second ∈ items,
    (job.builtIds archive first).Disjoint (job.markerIds second)
  reads : items.Pairwise fun first second =>
    (job.reads first).Disjoint (job.writtenIds archive second) ∧
      (job.reads second).Disjoint (job.writtenIds archive first)

instance (first second : List String) : Decidable (first.Disjoint second) :=
  inferInstanceAs (Decidable (∀ id ∈ first, id ∉ second))

instance (job : Job) (archive : Archive MemoryStore) (items : List WorkItem) :
    Decidable (job.KeepsApart archive items) :=
  decidable_of_iff (_ ∧ _ ∧ _ ∧ _)
    ⟨fun ⟨built, markers, kinds, reads⟩ => ⟨built, markers, kinds, reads⟩,
      fun keepsApart =>
        ⟨keepsApart.built, keepsApart.markers, keepsApart.kinds, keepsApart.reads⟩⟩

/-- Whether two work items neither write under one id nor read what the other writes. -/
def Apart (job : Job) (archive : Archive MemoryStore) (first second : WorkItem) : Prop :=
  (job.writtenIds archive first).Disjoint (job.writtenIds archive second) ∧
    (job.reads first).Disjoint (job.writtenIds archive second) ∧
      (job.reads second).Disjoint (job.writtenIds archive first)

variable {job : Job} {archive later : Archive MemoryStore} {items : List WorkItem}

theorem keys_leaves (job : Job) (archive : Archive MemoryStore) (item : WorkItem) :
    Keyed.keys (job.leaves archive item) = job.writtenIds archive item := by
  simp [leaves, writtenIds, builtIds, markerIds, Keyed.keys, Destination.entries]

theorem Apart.symm {first second : WorkItem} (apart : job.Apart archive first second) :
    job.Apart archive second first :=
  ⟨apart.1.symm, apart.2.2, apart.2.1⟩

instance : Std.Symm (job.Apart archive) :=
  ⟨fun _ _ apart => apart.symm⟩

theorem KeepsApart.pairwise (keepsApart : job.KeepsApart archive items) :
    items.Pairwise (job.Apart archive) := by
  have together := (keepsApart.built.and keepsApart.markers).and keepsApart.reads
  apply together.imp_of_mem
  intro first second firstMember secondMember ⟨⟨built, markers⟩, reads⟩
  refine ⟨?_, reads⟩
  have ahead := keepsApart.kinds first firstMember second secondMember
  have behind := keepsApart.kinds second secondMember first firstMember
  rw [writtenIds, writtenIds]
  apply List.disjoint_append_left.mpr
  exact ⟨List.disjoint_append_right.mpr ⟨built, ahead⟩,
    List.disjoint_append_right.mpr ⟨behind.symm, markers⟩⟩

theorem land_comm {first second : WorkItem} (apart : job.Apart archive first second)
    (store : MemoryStore) :
    job.land archive (job.land archive store first) second =
      job.land archive (job.land archive store second) first := by
  have disjoint := apart.1
  rw [← keys_leaves, ← keys_leaves] at disjoint
  simp only [land, MemoryStore.overlay_comm disjoint]

/-- Work items that keep apart leave the same store in every order. -/
theorem foldl_land_perm (apart : items.Pairwise (job.Apart archive)) {others : List WorkItem}
    (same : items.Perm others) (store : MemoryStore) :
    items.foldl (job.land archive) store = others.foldl (job.land archive) store := by
  apply same.foldl_eq'
  intro first firstMember second secondMember store
  by_cases equal : first = second
  · rw [equal]
  · exact land_comm (apart.forall firstMember secondMember equal) store

theorem unarmed_foldl_land (job : Job) (archive : Archive MemoryStore) (items : List WorkItem)
    (store : MemoryStore) :
    (items.foldl (job.land archive) store).refusals = store.refusals ∧
      (items.foldl (job.land archive) store).timeouts = store.timeouts := by
  induction items generalizing store with
  | nil => exact ⟨rfl, rfl⟩
  | cons item rest ih => exact ih (job.land archive store item)

/-- What an item reads is not touched by items apart from it. -/
theorem lookup_foldl_land {item : WorkItem}
    (apart : ∀ other ∈ items, job.Apart archive other item) {id : String}
    (isRead : id ∈ job.reads item) (store : MemoryStore) :
    Keyed.lookup (items.foldl (job.land archive) store).documents id =
      Keyed.lookup store.documents id := by
  induction items generalizing store with
  | nil => rfl
  | cons other rest ih =>
      have unwritten : id ∉ Keyed.keys (job.leaves archive other) := by
        rw [keys_leaves]
        exact (apart other List.mem_cons_self).2.2 isRead
      have behind := ih (fun next member => apart next (List.mem_cons_of_mem _ member))
        (job.land archive store other)
      exact behind.trans (MemoryStore.lookup_overlay_of_not_mem unwritten store.documents)

end Job

namespace Worker

theorem openDataset_congr {job : Job} {archive later : Archive MemoryStore} {item : WorkItem}
    {document : IngestDocument} (known : job.document? item.documentId = some document)
    (files : later.files = archive.files)
    (unread : ∀ id ∈ job.reads item,
      Keyed.lookup later.store.documents id = Keyed.lookup archive.store.documents id) :
    (openDataset later item document).2 = (openDataset archive item document).2 := by
  obtain ⟨source, documentId⟩ := item
  cases source with
  | path path mtime => simp only [openDataset, files]
  | identifier id =>
      have same := unread id (by simp [Job.reads, known])
      simp only [openDataset, DocumentStore.fetch, MemoryStore.fetch, same]
      cases Keyed.lookup archive.store.documents id with
      | none => rfl
      | some record => rfl

end Worker

namespace Job

variable {job : Job} {archive later : Archive MemoryStore} {pool : AssemblerPool}
  {item : WorkItem} {document : IngestDocument}

/-- A worker of any past builds an item as a fresh worker does, and at any later time
as at the start if what the item reads has not changed. -/
theorem build_eq_builds (valid : job.validate = .ok ()) (reachable : pool.Reachable job.documents)
    (known : job.document? item.documentId = some document) (files : later.files = archive.files)
    (unread : ∀ id ∈ job.reads item,
      Keyed.lookup later.store.documents id = Keyed.lookup archive.store.documents id) :
    (Worker.build pool later document item).2.2 = job.builds archive item := by
  have member : document ∈ job.documents := List.mem_of_find?_eq_some known
  obtain ⟨_, compiled, _, compiles, built⟩ :=
    Worker.build_of_validate valid reachable member later item
  obtain ⟨_, compiledFresh, _, compilesFresh, builtFresh⟩ :=
    Worker.build_of_validate valid .start member archive item
  have same : compiled = compiledFresh := Except.ok.inj (compiles.symm.trans compilesFresh)
  rw [built, Worker.openDataset_congr known files unread, same]
  simp only [builds, known, builtFresh]

theorem carried_leaves (valid : job.validate = .ok ())
    (known : job.document? item.documentId = some document) :
    ∀ entry ∈ job.leaves archive item, entry.2.textField? "id" = some entry.1 := by
  have member : document ∈ job.documents := List.mem_of_find?_eq_some known
  have carries := Worker.carries_build valid .start member archive item
  apply Destination.carried_entries
  simp only [builds, known]
  exact carries

end Job

namespace WorkerReport

/-- A delivery that arrives is noted by the number of documents that were built. -/
theorem noteItem_of_arrived (report : WorkerReport) (item : WorkItem)
    (built : Except Failure BuildOutcome) {delivered : Delivery}
    (arrived : delivered.isLost = false)
    (size : delivered.size = (Worker.documentsOf built).length) :
    report.noteItem item built delivered =
      report.noteItem item built (.written (Worker.documentsOf built).length) := by
  rw [← size]
  cases delivered with
  | written count => rfl
  | empty => cases built <;> rfl
  | lost reason => simp [Delivery.isLost] at arrived

end WorkerReport

namespace RunSummary

theorem addReport_comm (summary : RunSummary) (first second : WorkerReport) :
    (summary.addReport first).addReport second = (summary.addReport second).addReport first := by
  simp only [addReport, Nat.add_right_comm]

/-- What a work item adds to the counts does not depend on the report it is noted in. -/
theorem addReport_noteItem (summary : RunSummary) (report : WorkerReport) (item : WorkItem)
    (built : Except Failure BuildOutcome) (delivered : Delivery) :
    summary.addReport (report.noteItem item built delivered) =
      (summary.addReport report).addReport
        (({} : WorkerReport).noteItem item built delivered) := by
  cases built with
  | error failure =>
      cases delivered <;>
        simp [addReport, WorkerReport.noteItem, Delivery.isLost, WorkerReport.noteBroken,
          WorkerReport.countFailed, WorkerReport.countPartial, Nat.add_assoc]
  | ok outcome =>
      cases delivered <;>
        simp [addReport, WorkerReport.noteItem, WorkerReport.addRows, WorkerReport.addOutcome,
          WorkerReport.countOk, WorkerReport.countFailed, WorkerReport.countPartial, Nat.add_assoc]

theorem foldl_addReport_comm (reports : List WorkerReport) (summary : RunSummary)
    (note : WorkerReport) :
    reports.foldl addReport (summary.addReport note) =
      (reports.foldl addReport summary).addReport note := by
  induction reports generalizing summary with
  | nil => rfl
  | cons report rest ih => rw [List.foldl_cons, addReport_comm, ih, List.foldl_cons]

theorem foldl_addReport_perm {reports others : List WorkerReport} (same : reports.Perm others)
    (summary : RunSummary) :
    reports.foldl addReport summary = others.foldl addReport summary := by
  apply same.foldl_eq'
  intro first _ second _ current
  exact addReport_comm current first second

end RunSummary

end DocumentIngest
