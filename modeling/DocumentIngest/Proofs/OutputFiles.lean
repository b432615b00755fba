import DocumentIngest.Proofs.CrewSteps
import DocumentIngest.Proofs.FileTreeWriting
import DocumentIngest.Proofs.PathNames
import DocumentIngest.Proofs.RunAccounts

/-!
# Output files

In file mode the documents of a work item go into a file that is named for the source of
the item alone, with every unusual character replaced.  What lands under a name stays
readable until something else lands under it, so an item keeps its documents if no other
one has its name.  Two items do have one name if they differ in the ingest document, in
the directory or extension of the file, or in characters that are replaced, and then
the later one takes the place of the other.
-/

namespace DocumentIngest

open Fallible

namespace FileTree

/-- A path that was joined from a directory and a name leads to that name. -/
theorem getLast?_locate {tree : FileTree} {directory name : String} (isName : Path.IsName name)
    {names : List String} (leads : tree.locate (Path.join directory name) = some names) :
    names.getLast? = some name := by
  obtain ⟨ahead, parts⟩ :=
    List.getLast?_eq_some_iff.mp (Path.getLast?_parts_join isName directory)
  rw [locate, parts, List.foldlM_append] at leads
  obtain ⟨place, _, leads⟩ := Option.bind_eq_some_iff.mp leads
  rw [List.foldlM_cons] at leads
  obtain ⟨last, follows, leads⟩ := Option.bind_eq_some_iff.mp leads
  cases leads
  rw [follow] at follows
  split at follows
  · cases follows
    exact List.getLast?_concat
  · simp at follows

end FileTree

namespace Destination

/-- The text that stands in the file of some documents. -/
def contentOf (documents : DocumentMap) : List UInt8 :=
  (Json.array (Keyed.values documents)).pretty.toUTF8.toList

theorem slash_ne_fileNameChar (character : Char) : fileNameChar character ≠ '/' := by
  intro same
  rw [fileNameChar] at same
  split at same
  · next usual =>
      rw [same] at usual
      exact absurd usual (by decide)
  · exact absurd same (by decide)

theorem isName_outputName (text : String) : Path.IsName (outputName text) := by
  have length : 5 ≤ (outputName text).toList.length := by
    simp [outputName]
  refine ⟨?_, ?_, ?_, ?_⟩
  · simp only [outputName, String.toList_append, String.toList_ofList, List.mem_append, not_or]
    constructor
    · intro inside
      obtain ⟨character, _, same⟩ := List.mem_map.mp inside
      exact slash_ne_fileNameChar character same
    · decide
  · intro same
    simp [same] at length
  · intro same
    simp [same] at length
  · intro same
    simp [same] at length

theorem outputName_inj {first second : String} :
    outputName first = outputName second ↔
      first.toList.map fileNameChar = second.toList.map fileNameChar := by
  simp [outputName, String.ext_iff]

theorem target_inj {directory : String} {first second : WorkItem} :
    target directory first = target directory second ↔
      (outputStem first).toList.map fileNameChar = (outputStem second).toList.map fileNameChar := by
  rw [target, target, Path.join_inj (isName_outputName _) (isName_outputName _), outputName_inj]

section Writing

variable {σ : Type} {archive after : Archive σ} {directory name : String} {value : Json}
  {content : List UInt8}

theorem read?_writeFile {path : String}
    (writes : writeFile archive directory path value = (after, .ok ())) :
    after.files.read? path = some value.pretty.toUTF8.toList := by
  rw [writeFile] at writes
  split at writes
  · simp at writes
  · split at writes
    · simp at writes
    · next written =>
        cases writes
        exact FileTree.read?_write? written

/-- A write that fails leaves every file as it was, and one that does not all files but
the one that it writes. -/
theorem read?_writeFile_of_apart {path other : String}
    (reads : archive.files.read? other = some content)
    (apart : (writeFile archive directory path value).2.isOk = true →
      ∀ tree : FileTree, ∀ names, tree.locate other = some names → tree.locate path ≠ some names) :
    (writeFile archive directory path value).1.files.read? other = some content := by
  rw [writeFile] at apart ⊢
  split
  · exact reads
  next made makes =>
  have isThere : archive.files.locate other ≠ none := by
    obtain ⟨_, _, names, _, leads, _⟩ := FileTree.read?_eq_some_iff.mp reads
    simp [leads]
  have kept := (FileTree.keepsBut_makeFolder? makes).read? isThere reads
  split
  · exact kept
  next written writes =>
  obtain ⟨_, _, names, _, leads, _⟩ := FileTree.read?_eq_some_iff.mp kept
  simp only [makes, writes] at apart
  have elsewhere : made.locate other ≠ made.locate path := by
    rw [leads]
    exact (apart rfl made names leads).symm
  exact (FileTree.keepsBut_write? writes).read? elsewhere kept

theorem read?_writeFile_of_ne {other : String} (isName : Path.IsName name)
    (otherIsName : Path.IsName other) (different : other ≠ name)
    (reads : archive.files.read? (Path.join directory other) = some content) (value : Json) :
    (writeFile archive directory (Path.join directory name) value).1.files.read?
      (Path.join directory other) = some content := by
  apply read?_writeFile_of_apart reads
  intro _ tree names leads same
  have ends := FileTree.getLast?_locate otherIsName leads
  rw [FileTree.getLast?_locate isName same] at ends
  exact different (Option.some.inj ends).symm

end Writing

section Delivering

variable {σ : Type} [DocumentStore σ] (directory : String) (archive : Archive σ) (item : WorkItem)
  {documents : DocumentMap} (marker : Option DataFileRecord)

theorem deliver_toFiles_nil :
    (toFiles directory).deliver archive item [] marker = (archive, .empty) := by
  cases marker <;> rfl

theorem deliver_toFiles (notEmpty : documents ≠ []) :
    (∃ after, writeFile archive directory (target directory item)
          (.array (Keyed.values documents)) = (after, .ok ()) ∧
        (toFiles directory).deliver archive item documents marker =
          (after, .written documents.length)) ∨
      ∃ after failure, writeFile archive directory (target directory item)
          (.array (Keyed.values documents)) = (after, .error failure) ∧
        (toFiles directory).deliver archive item documents marker = (after, .lost failure) := by
  have isEmpty : documents.isEmpty = false := by simpa using notEmpty
  simp only [deliver, isEmpty, Bool.false_eq_true, if_false]
  rcases writeFile archive directory (target directory item) (.array (Keyed.values documents))
    with ⟨after, failure | _⟩
  · exact .inr ⟨after, failure, rfl, rfl⟩
  · exact .inl ⟨after, rfl, rfl⟩

end Delivering

end Destination

/-- The documents of a landing if they went into the output file of a name. -/
def outputOf? (name : String) (landing : WorkItem × DocumentMap) : Option DocumentMap :=
  if landing.2 ≠ [] ∧ Destination.outputName (Destination.outputStem landing.1) = name then
    some landing.2
  else none

/-- The documents that landed last in the output file of a name. -/
def lastOutput (landed : List (WorkItem × DocumentMap)) (name : String) : Option DocumentMap :=
  landed.reverse.findSome? (outputOf? name)

theorem lastOutput_concat (landed : List (WorkItem × DocumentMap))
    (landing : WorkItem × DocumentMap) (name : String) :
    lastOutput (landed ++ [landing]) name =
      (outputOf? name landing).or (lastOutput landed name) := by
  rw [lastOutput, List.reverse_append, List.findSome?_append, List.reverse_singleton,
    List.findSome?_singleton]
  rfl

theorem exists_of_lastOutput {landed : List (WorkItem × DocumentMap)} {name : String}
    {documents : DocumentMap} (lands : lastOutput landed name = some documents) :
    ∃ landing ∈ landed, landing.2 ≠ [] ∧
      Destination.outputName (Destination.outputStem landing.1) = name ∧
        landing.2 = documents := by
  obtain ⟨landing, member, isOutput⟩ := List.exists_of_findSome?_eq_some lands
  rw [outputOf?] at isOutput
  split at isOutput
  · next own => exact ⟨landing, List.mem_reverse.mp member, own.1, own.2, Option.some.inj isOutput⟩
  · simp at isOutput

/-- If nothing else with documents lands under the name of a landing, its documents are
the last ones there. -/
theorem lastOutput_of_alone {landed : List (WorkItem × DocumentMap)}
    {landing : WorkItem × DocumentMap} (member : landing ∈ landed) (notEmpty : landing.2 ≠ [])
    (alone : ∀ other ∈ landed, other.2 ≠ [] →
      Destination.outputName (Destination.outputStem other.1) =
        Destination.outputName (Destination.outputStem landing.1) → other = landing) :
    lastOutput landed (Destination.outputName (Destination.outputStem landing.1)) =
      some landing.2 := by
  cases lands : lastOutput landed (Destination.outputName (Destination.outputStem landing.1)) with
  | none =>
      have nothing := List.findSome?_eq_none_iff.mp lands landing (List.mem_reverse.mpr member)
      rw [outputOf?, if_pos ⟨notEmpty, rfl⟩] at nothing
      simp at nothing
  | some documents =>
      obtain ⟨other, otherMember, otherNotEmpty, sameName, rfl⟩ := exists_of_lastOutput lands
      rw [alone other otherMember otherNotEmpty sameName]

section Crews

variable {σ : Type} [DocumentStore σ] {order : WorkOrder} {directory : String}

theorem Worker.files_openDataset (archive : Archive σ) (item : WorkItem)
    (document : IngestDocument) : (openDataset archive item document).1.files = archive.files := by
  obtain ⟨source, documentId⟩ := item
  cases source with
  | path path mtime => rfl
  | identifier id =>
      simp only [openDataset]
      rcases DocumentStore.fetch archive.store id with ⟨store, fault | record⟩ <;> rfl

theorem Worker.files_build (pool : AssemblerPool) (archive : Archive σ)
    (document : IngestDocument) (item : WorkItem) :
    (build pool archive document item).2.1.files = archive.files := by
  rw [← files_openDataset archive item document, build]
  rcases openDataset archive item document with ⟨archive', failure | dataset⟩ <;> rfl

namespace Crew

/-- Whether the output files hold what landed in them last. -/
def HoldsOutputs (directory : String) (crew : Crew σ) (landed : List (WorkItem × DocumentMap)) :
    Prop :=
  ∀ name documents, lastOutput landed name = some documents →
    crew.shop.archive.files.read? (Path.join directory name) =
      some (Destination.contentOf documents)

variable {before after : List Worker} {worker : Worker} {shop : Workshop σ}
  {landed : List (WorkItem × DocumentMap)}

omit [DocumentStore σ] in
theorem HoldsOutputs.of_same
    (holds : HoldsOutputs directory ⟨before ++ worker :: after, shop⟩ landed)
    {workers : List Worker} {shopLater : Workshop σ}
    (files : shopLater.archive.files = shop.archive.files) :
    HoldsOutputs directory ⟨workers, shopLater⟩ (landed ++ (none : Option _).toList) := by
  intro name documents lands
  rw [Option.toList_none, List.append_nil] at lands
  have reads := holds name documents lands
  rwa [← files] at reads

/-- A delivery puts documents into the file of their item and leaves the other files. -/
theorem HoldsOutputs.deliver
    (holds : HoldsOutputs directory ⟨before ++ worker :: after, shop⟩ landed) (item : WorkItem)
    (documents : DocumentMap) (marker : Option DataFileRecord) {workers : List Worker}
    {shopLater : Workshop σ}
    (archive : shopLater.archive =
      ((Destination.toFiles directory).deliver shop.archive item documents marker).1) :
    HoldsOutputs directory ⟨workers, shopLater⟩
      (landed ++
        (if ((Destination.toFiles directory).deliver shop.archive item documents
            marker).2.isLost then none
          else some (item, documents)).toList) := by
  by_cases nothing : documents = []
  · subst nothing
    rw [Destination.deliver_toFiles_nil] at archive ⊢
    simp only [Delivery.isLost, Bool.false_eq_true, if_false, Option.toList_some]
    intro name kept lands
    rw [lastOutput_concat, outputOf?, if_neg fun own => own.1 rfl, Option.none_or] at lands
    rw [archive]
    exact holds name kept lands
  · rcases Destination.deliver_toFiles directory shop.archive item marker nothing with
      ⟨after, writes, delivers⟩ | ⟨after, failure, writes, delivers⟩
    · rw [delivers] at archive ⊢
      simp only [Delivery.isLost, Bool.false_eq_true, if_false, Option.toList_some]
      intro name kept lands
      rw [lastOutput_concat, outputOf?] at lands
      split at lands
      · next own =>
          cases lands
          rw [archive, ← own.2]
          exact Destination.read?_writeFile writes
      · next other =>
          rw [Option.none_or] at lands
          obtain ⟨earlier, _, _, named, _⟩ := exists_of_lastOutput lands
          have isName : Path.IsName name := named ▸ Destination.isName_outputName _
          have different : name ≠ Destination.outputName (Destination.outputStem item) :=
            fun same => other ⟨nothing, same.symm⟩
          have stays := Destination.read?_writeFile_of_ne (Destination.isName_outputName _) isName
            different (holds name kept lands) (.array (Keyed.values documents))
          rw [← Destination.target, writes, ← archive] at stays
          exact stays
    · rw [delivers] at archive ⊢
      simp only [Delivery.isLost, if_true, Option.toList_none, List.append_nil]
      intro name kept lands
      have stays := Destination.read?_writeFile_of_apart (holds name kept lands)
        (by rw [writes]; intro isOk; cases isOk)
      rw [writes, ← archive] at stays
      exact stays

theorem HoldsOutputs.step (toFiles : order.destination = .toFiles directory)
    (holds : HoldsOutputs directory ⟨before ++ worker :: after, shop⟩ landed) :
    HoldsOutputs directory
      ⟨before ++ (worker.step order shop).1 :: after, (worker.step order shop).2⟩
      (landed ++ (worker.landing? order shop).toList) := by
  obtain ⟨index, phase, pool, report⟩ := worker
  cases phase with
  | connecting attempts =>
      simp only [Worker.step, Worker.landing?]
      rcases DocumentStore.connect shop.archive.store with ⟨store, fault | _⟩
      · dsimp only
        split
        · exact holds.of_same rfl
        · exact holds.of_same rfl
      · exact holds.of_same rfl
  | polling emptyPolls =>
      simp only [Worker.step, Worker.landing?, WorkQueue.take]
      cases shop.queue.waiting with
      | cons ticket rest => exact holds.of_same rfl
      | nil =>
          cases shop.queue.isOpen with
          | false => exact holds.of_same rfl
          | true =>
              simp only [if_true]
              split
              · exact holds.of_same rfl
              · exact holds.of_same rfl
  | holding ticket => exact holds.of_same rfl
  | building ticket =>
      simp only [Worker.step, Worker.landing?]
      cases order.job.document? ticket.item.documentId with
      | none => exact holds.of_same rfl
      | some document =>
          exact holds.of_same (Worker.files_build pool shop.archive document ticket.item)
  | writing ticket document built =>
      simp only [Worker.step, Worker.write_eq, Worker.landing?, toFiles]
      exact holds.deliver ticket.item (Worker.documentsOf built) (ticket.item.marker document) rfl
  | acknowledging ticket => exact holds.of_same rfl
  | finished => exact holds.of_same rfl
  | gaveUp fault => exact holds.of_same rfl

theorem holdsOutputs_follow (toFiles : order.destination = .toFiles directory) (crew : Crew σ)
    (schedule : List Nat) :
    (crew.follow order schedule).HoldsOutputs directory (crew.landings order schedule) :=
  @follow_induction _ _ order (HoldsOutputs directory) (fun _ _ _ _ _ holds => holds.step toFiles)
    schedule crew [] nofun

end Crew

end Crews

namespace Run

/-- A run leaves what its crew left, with the record of the run if that is written. -/
theorem finish_fst {σ : Type} [DocumentStore σ] (settings : Settings) (plan : RunPlan)
    (start : Int) (crew : Crew σ) :
    (finish settings plan start crew).1 = crew.shop.archive ∨
      ∃ record : LoadJobRecord,
        record.id = LoadJobRecord.idFor plan.job.subset plan.job.id start ∧
          (finish settings plan start crew).1 =
            ((destination settings).recordRun crew.shop.archive record).1 := by
  obtain ⟨_, _, _, loadJobId⟩ := fixed_summarize plan start crew.shop.queue
    (crew.workers.map (Worker.result (order settings plan)))
  unfold finish
  dsimp only
  split
  · exact .inl rfl
  · refine .inr ⟨recordOf settings plan start (secondOf crew.shop.archive.now)
      (summarize plan start crew.shop.queue
        (crew.workers.map (Worker.result (order settings plan)))), loadJobId, ?_⟩
    split
    · next recorded => rw [recorded]
    · next recorded => rw [recorded]

/-- What landed last in an output file is read from it after the run, unless the record
of the run has the name of the file. -/
theorem read?_of_lastOutput {σ : Type} [DocumentStore σ] {settings : Settings} {plan : RunPlan}
    {directory : String} (toFiles : settings.outputDirectory = some directory) (start : Int)
    (crew : Crew σ) (schedule : List Nat) {name : String} {documents : DocumentMap}
    (lands : lastOutput (crew.landings (order settings plan) schedule) name = some documents)
    (notRecord : name ≠ Destination.outputName
      (LoadJobRecord.idFor plan.job.subset plan.job.id start)) :
    (finish settings plan start
        (crew.follow (order settings plan) schedule)).1.files.read? (Path.join directory name) =
      some (Destination.contentOf documents) := by
  have destined : destination settings = .toFiles directory := by
    rw [destination, toFiles]
    rfl
  have reads := Crew.holdsOutputs_follow destined crew schedule name documents lands
  obtain ⟨_, _, _, named, _⟩ := exists_of_lastOutput lands
  have isName : Path.IsName name := named ▸ Destination.isName_outputName _
  rcases finish_fst settings plan start (crew.follow (order settings plan) schedule) with
    same | ⟨record, recordId, recorded⟩
  · rwa [same]
  · rw [recorded, destined]
    rw [← recordId] at notRecord
    exact Destination.read?_writeFile_of_ne (Destination.isName_outputName _) isName notRecord
      reads record.toJson

end Run

/-- The output files of a run whose workers follow any schedule.  Two work items have one
output file if and only if what they are named for differs at most in characters that are
replaced.  The documents of an item that landed are read from its file after the run if
nothing else with documents landed under the same name, the record of the run included. -/
theorem Run.outputs_read_back {settings : Settings} {archive planned : Archive MemoryStore}
    {plan : RunPlan} {directory : String} (toFiles : settings.outputDirectory = some directory)
    (planning : Run.plan settings archive = (planned, .ok plan)) (schedule : List Nat) :
    (∀ first second : WorkItem,
      Destination.target directory first = Destination.target directory second ↔
        (Destination.outputStem first).toList.map Destination.fileNameChar =
          (Destination.outputStem second).toList.map Destination.fileNameChar) ∧
    ∀ landing ∈ (crewFor settings plan planned).landings (order settings plan) schedule,
      landing.2 ≠ [] →
      Destination.outputName (LoadJobRecord.idFor plan.job.subset plan.job.id
          (secondOf archive.now)) ≠ Destination.outputName (Destination.outputStem landing.1) →
      (∀ other ∈ (crewFor settings plan planned).landings (order settings plan) schedule,
        other.2 ≠ [] → Destination.target directory other.1 =
          Destination.target directory landing.1 → other = landing) →
        (performWith (fun order crew => crew.follow order schedule) settings
            archive).1.files.read? (Destination.target directory landing.1) =
          some (Destination.contentOf landing.2) := by
  refine ⟨fun first second => Destination.target_inj, ?_⟩
  intro landing member notEmpty notRecord alone
  have last := lastOutput_of_alone member notEmpty fun other otherMember otherNotEmpty same =>
    alone other otherMember otherNotEmpty (congrArg (Path.join directory) same)
  simp only [performWith, planning]
  exact read?_of_lastOutput toFiles (secondOf archive.now) (crewFor settings plan planned) schedule
    last notRecord.symm

/-- The settings of the daily job with an output directory, which is yet to be made. -/
def Settings.dailyFiles : Settings :=
  { Settings.daily with outputDirectory := some "/data/out" }

/-- Checks what two items left that landed when the workers of a run followed a
schedule, and whether the workers were done then. -/
def Run.twoLand (settings : Settings) (archive : Archive MemoryStore) (schedule : List Nat)
    (check : RunPlan → Bool → WorkItem × DocumentMap → WorkItem × DocumentMap → Bool) : Bool :=
  match Run.plan settings archive with
  | (planned, .ok plan) =>
      match (crewFor settings plan planned).landings (order settings plan) schedule with
      | [first, second] =>
          check plan ((crewFor settings plan planned).follow (order settings plan) schedule).isDone
            first second
      | _ => false
  | (_, .error _) => false

theorem Run.exists_of_twoLand {settings : Settings} {archive : Archive MemoryStore}
    {schedule : List Nat}
    {check : RunPlan → Bool → WorkItem × DocumentMap → WorkItem × DocumentMap → Bool}
    (lands : twoLand settings archive schedule check = true) :
    ∃ planned plan first second, Run.plan settings archive = (planned, .ok plan) ∧
      (crewFor settings plan planned).landings (order settings plan) schedule = [first, second] ∧
      check plan ((crewFor settings plan planned).follow (order settings plan) schedule).isDone
        first second = true := by
  rw [twoLand] at lands
  split at lands
  · next planned plan planning =>
      split at lands
      · next first second landed => exact ⟨planned, plan, first, second, planning, landed, lands⟩
      · exact absurd lands Bool.false_ne_true
  · exact absurd lands Bool.false_ne_true

theorem Run.outputs_read_back_daily :
    ∃ planned plan landing,
      Run.plan .dailyFiles (⟨.daily, [], 0⟩ : Archive MemoryStore) = (planned, .ok plan) ∧
        landing ∈ (crewFor .dailyFiles plan planned).landings (order .dailyFiles plan)
          (List.replicate 12 0) ∧
        landing.2 ≠ [] ∧
        (performWith (fun order crew => crew.follow order (List.replicate 12 0)) .dailyFiles
            (⟨.daily, [], 0⟩ : Archive MemoryStore)).1.files.read?
              (Destination.target "/data/out" landing.1) = some (Destination.contentOf landing.2) := by
  have lands : twoLand .dailyFiles (⟨.daily, [], 0⟩ : Archive MemoryStore) (List.replicate 12 0)
      (fun plan _ raw gone =>
        decide (raw.1 = .ofIdentifier "raw" "stations" ∧ raw.2 ≠ [] ∧ gone.2 = [] ∧
          plan.job.subset = "" ∧ plan.job.id = "daily")) = true := by decide +kernel
  obtain ⟨planned, plan, raw, gone, planning, landed, checked⟩ := exists_of_twoLand lands
  obtain ⟨isRaw, notEmpty, nothing, subset, jobId⟩ := of_decide_eq_true checked
  have member : raw ∈ (crewFor .dailyFiles plan planned).landings (order .dailyFiles plan)
      (List.replicate 12 0) := landed ▸ List.mem_cons_self
  refine ⟨planned, plan, raw, planning, member, notEmpty, ?_⟩
  apply (outputs_read_back rfl planning (List.replicate 12 0)).2 raw member notEmpty
  · rw [isRaw, subset, jobId]
    decide +kernel
  · intro other otherMember otherNotEmpty _
    rw [landed] at otherMember
    rcases List.mem_cons.mp otherMember with same | behind
    · exact same
    · rw [List.mem_singleton.mp behind] at otherNotEmpty
      exact absurd nothing otherNotEmpty

/-- Whether different work items that landed documents have output files of their own. -/
def KeepsOutputsApart (directory : String) (landed : List (WorkItem × DocumentMap)) : Prop :=
  ∀ first ∈ landed, ∀ second ∈ landed, first.2 ≠ [] → second.2 ≠ [] → first.1 ≠ second.1 →
    Destination.target directory first.1 ≠ Destination.target directory second.1

/-- Two ingest documents of one stored record. -/
def MemoryStore.shared : MemoryStore :=
  { documents :=
      [("JOB:daily",
          .ofFields [("ingest_document_ids", .array [.string "north", .string "south"])]),
        ("north",
          { IngestDocument.stations with id := "north", recordIds := ["raw"] }.toJson),
        ("raw", .ofFields
          [("data", .array [.ofFields
            [("name", .string "noon"), ("station", .string "a"), ("temp", .ofNat 3)]])]),
        ("south",
          { IngestDocument.stations with id := "south", recordIds := ["raw"] }.toJson)] }

theorem Run.not_keepsOutputsApart :
    ¬∀ (settings : Settings) (archive planned : Archive MemoryStore) (plan : RunPlan)
        (directory : String) (schedule : List Nat),
      settings.outputDirectory = some directory →
        Run.plan settings archive = (planned, .ok plan) →
          ((crewFor settings plan planned).follow (order settings plan) schedule).isDone = true →
            KeepsOutputsApart directory
              ((crewFor settings plan planned).landings (order settings plan) schedule) := by
  intro keepsApart
  have lands : twoLand .dailyFiles (⟨.shared, [], 0⟩ : Archive MemoryStore)
      (List.replicate 12 0 ++ [1, 1])
      (fun _ done first second =>
        done && decide (first.1 = .ofIdentifier "raw" "north" ∧
          second.1 = .ofIdentifier "raw" "south" ∧ first.2 ≠ [] ∧ second.2 ≠ [])) = true := by
    decide +kernel
  obtain ⟨planned, plan, first, second, planning, landed, checked⟩ := exists_of_twoLand lands
  obtain ⟨done, checked⟩ := Bool.and_eq_true_iff.mp checked
  obtain ⟨isNorth, isSouth, notEmpty, otherNotEmpty⟩ := of_decide_eq_true checked
  have apart := keepsApart .dailyFiles _ planned plan "/data/out" _ rfl planning done
  rw [landed] at apart
  have different : first.1 ≠ second.1 := by
    rw [isNorth, isSouth]
    decide
  apply apart first List.mem_cons_self second (List.mem_cons_of_mem _ List.mem_cons_self)
    notEmpty otherNotEmpty different
  rw [isNorth, isSouth]
  rfl

end DocumentIngest
