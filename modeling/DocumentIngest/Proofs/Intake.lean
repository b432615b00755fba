import DocumentIngest.Proofs.CrewSteps
import DocumentIngest.Proofs.LeadingPieces
import DocumentIngest.Proofs.NewFiles
import DocumentIngest.Run

/-!
# The intake of a directory

An intake is what a run is told when its job has one ingest document that takes
the files of one directory to the store.  Its history consists of passes, whole
runs over whatever the directory holds at the time, and of what they landed.  The
store reflects the history if each file has the marker of its last landing and
nothing else reads as a marker.  What is known of a file then is the time at which
it last landed, and a file is offered exactly if it never did or is newer.
-/

namespace DocumentIngest

/-- A job with one ingest document for the files of one directory, whose ids begin
with another constant than those of markers. -/
structure Intake where
  source : JobSource
  specFile : String
  discovery : DiscoverySettings
  directory : String
  job : Job
  document : IngestDocument
  compiled : CompiledDocument
  /-- The constant that built ids begin with. -/
  head : String
  fromFile : source.specFile = some specFile
  valid : job.validate = .ok ()
  single : job.documents = [document]
  pathBased : document.recordIds = []
  inDirectory : document.inputDirectory.or discovery.inputDirectory = some directory
  compiles : CompiledDocument.compile document = .ok compiled
  leads : compiled.id.leadingLiteral? = some head
  otherHead : head ≠ DataFileRecord.type

/-- The time of a landing, if it is that of a path. -/
def landedTime? (path : String) (landing : WorkItem × DocumentMap) : Option Int :=
  match landing.1.source with
  | .path other mtime => if other = path then some mtime else none
  | .identifier _ => none

/-- The time that a path had when it last landed. -/
def lastLanding (landed : List (WorkItem × DocumentMap)) (path : String) : Option Int :=
  landed.reverse.findSome? (landedTime? path)

theorem lastLanding_concat (landed : List (WorkItem × DocumentMap))
    (landing : WorkItem × DocumentMap) (path : String) :
    lastLanding (landed ++ [landing]) path =
      (landedTime? path landing).or (lastLanding landed path) := by
  rw [lastLanding, List.reverse_append, List.reverse_singleton, List.singleton_append,
    List.findSome?_cons]
  cases landedTime? path landing <;> rfl

namespace Intake

variable (intake : Intake)

def settings (runtime : RuntimeSettings) : Settings :=
  { runtime, store := .inMemory, job := intake.source, discovery := intake.discovery }

/-- The pattern that file names have to match. -/
def pattern : String :=
  (intake.document.filePattern.or intake.discovery.filePattern).getD Run.anyName

def filter : DiscoveryFilter :=
  Run.filterFor intake.discovery intake.document

/-- The path of a file in the directory. -/
def pathOf (name : String) : String :=
  Path.join intake.directory name

def marker (name : String) (mtime : Int) : DataFileRecord :=
  .make (intake.pathOf name) mtime intake.document

def markerId (name : String) : String :=
  (intake.marker name 0).id

def item (name : String) (mtime : Int) : WorkItem :=
  .ofPath (intake.pathOf name) mtime intake.document.id

/-- Whether the files at hand hold the job of the intake and its directory with some
entries. -/
structure Sees (files : FileTree) (entries : Keyed FileNode) : Prop where
  loads : Job.ofFile files intake.specFile = .ok intake.job
  lists : files.list? intake.directory = some entries
  ascending : Keyed.Ascending entries
  names : ∀ entry ∈ entries, Path.IsName entry.1

/-- Whether an entry of the directory is a file that matches the pattern and passes
the filter, with the time that it is listed with. -/
def IsEligible (entries : Keyed FileNode) (name : String) (mtime : Int) : Prop :=
  (∃ content modified, (name, FileNode.file content modified) ∈ entries ∧
    mtime = Discovery.listedTime modified) ∧
  (Glob.ofPattern intake.pattern).matchesName name = true ∧
  intake.filter.admits ⟨intake.pathOf name, mtime⟩ = true

/-- Whether a file is due: it never landed, or it is newer than when it last did. -/
def IsDue (landed : List (WorkItem × DocumentMap)) (name : String) (mtime : Int) : Prop :=
  lastLanding landed (intake.pathOf name) = none ∨
    ∃ landedAt, lastLanding landed (intake.pathOf name) = some landedAt ∧ landedAt < mtime

/-- A whole run over the store with the given documents and any number of armed
timeouts. -/
structure Pass (documents : DocumentMap) where
  runtime : RuntimeSettings
  timeouts : Nat
  files : FileTree
  entries : Keyed FileNode
  now : Int
  schedule : List Nat
  planned : Archive MemoryStore
  plan : RunPlan
  final : Archive MemoryStore
  result : Except Failure RunReport
  sees : intake.Sees files entries
  plans : Run.plan (intake.settings runtime)
    (⟨{ documents, timeouts }, files, now⟩ : Archive MemoryStore) = (planned, .ok plan)
  complete :
    ((Run.crewFor (intake.settings runtime) plan planned).follow
      (Run.order (intake.settings runtime) plan) schedule).isDone = true
  performs : Run.performWith (fun order crew => crew.follow order schedule)
    (intake.settings runtime) ⟨{ documents, timeouts }, files, now⟩ = (final, result)

/-- What landed during a pass. -/
def Pass.landings {intake : Intake} {documents : DocumentMap} (pass : intake.Pass documents) :
    List (WorkItem × DocumentMap) :=
  (Run.crewFor (intake.settings pass.runtime) pass.plan pass.planned).landings
    (Run.order (intake.settings pass.runtime) pass.plan) pass.schedule

/-- The documents in the store, and all that landed, after any number of runs over a
directory that changed in between in any way.  A run may also fail before its first
worker starts. -/
inductive History : DocumentMap → List (WorkItem × DocumentMap) → Prop where
  | start : History [] []
  | failed {documents : DocumentMap} {landed : List (WorkItem × DocumentMap)}
      {runtime : RuntimeSettings} {timeouts : Nat} {files : FileTree} {now : Int}
      {final : Archive MemoryStore} {failure : Failure}
      (fails : Run.plan (intake.settings runtime)
        (⟨{ documents, timeouts }, files, now⟩ : Archive MemoryStore) = (final, .error failure)) :
      History documents landed → History final.store.documents landed
  | pass {documents : DocumentMap} {landed : List (WorkItem × DocumentMap)}
      (pass : intake.Pass documents) :
      History documents landed → History pass.final.store.documents (landed ++ pass.landings)

/-- Whether, after any history and whatever the directory holds, a run offers exactly
the eligible files that are due. -/
def OffersWhatIsDue : Prop :=
  ∀ documents landed, intake.History documents landed →
    ∀ runtime timeouts files entries now, (intake.settings runtime).validate = .ok () →
      intake.Sees files entries →
        ∃ planned plan, Run.plan (intake.settings runtime)
            (⟨{ documents, timeouts }, files, now⟩ : Archive MemoryStore) = (planned, .ok plan) ∧
          ∀ item, item ∈ plan.items ↔
            ∃ name mtime, item = intake.item name mtime ∧
              intake.IsEligible entries name mtime ∧ intake.IsDue landed name mtime

/-- What a run offers for entries of the directory over a store with some documents. -/
def offers (documents : DocumentMap) (entries : Keyed FileNode) : List WorkItem :=
  (Discovery.select
    (entries.filterMap fun entry =>
      match entry.2 with
      | .file _ modified =>
          if (Glob.ofPattern intake.pattern).matchesName entry.1 then
            some ⟨intake.pathOf entry.1, Discovery.listedTime modified⟩
          else none
      | .folder _ => none)
    (Discovery.latestKnown
      ((Keyed.values documents).filterMap (MemoryStore.markerOf? intake.document.id)))
    intake.filter).map
      fun candidate => .ofPath candidate.path candidate.mtime intake.document.id

variable {intake}

/-- A run plans what the intake offers, and leaves the archive as it is. -/
theorem plan_eq {runtime : RuntimeSettings} {files : FileTree} {entries : Keyed FileNode}
    (runnable : (intake.settings runtime).validate = .ok ()) (sees : intake.Sees files entries)
    (documents : DocumentMap) (timeouts : Nat) (now : Int) :
    Run.plan (intake.settings runtime)
        (⟨{ documents, timeouts }, files, now⟩ : Archive MemoryStore) =
      (⟨{ documents, timeouts }, files, now⟩,
        .ok ⟨intake.job, intake.offers documents entries⟩) := by
  -- Nothing is refused, and the job file and the directory are there.
  have reached : ∀ retries, DocumentStore.connectWithin retries
      ({ documents, timeouts } : MemoryStore) = ({ documents, timeouts }, .ok ()) := by
    intro retries
    cases retries <;> rfl
  have connects : Run.connect (intake.settings runtime)
      (⟨{ documents, timeouts }, files, now⟩ : Archive MemoryStore) =
        (⟨{ documents, timeouts }, files, now⟩, .ok ()) := by
    simp only [Run.connect, reached]
    rfl
  have loads : Run.loadJob (intake.settings runtime)
      (⟨{ documents, timeouts }, files, now⟩ : Archive MemoryStore) =
        (⟨{ documents, timeouts }, files, now⟩, .ok intake.job) := by
    simp only [Run.loadJob, settings, Job.load, intake.fromFile, sees.loads, intake.valid]
  have finds : Run.discover intake.discovery .toStore
      (⟨{ documents, timeouts }, files, now⟩ : Archive MemoryStore) intake.document =
        (⟨{ documents, timeouts }, files, now⟩, .ok (intake.offers documents entries)) := by
    simp only [Run.discover, intake.pathBased, List.isEmpty_nil, if_true, Run.discoverFiles,
      intake.inDirectory, Discovery.candidatesIn, sees.lists, Run.knownFiles,
      DocumentStore.markers]
    rfl
  have findsAll : Run.discoverAll (intake.settings runtime).discovery
      (Run.destination (intake.settings runtime))
      (⟨{ documents, timeouts }, files, now⟩ : Archive MemoryStore) intake.job.documents =
        (⟨{ documents, timeouts }, files, now⟩, .ok (intake.offers documents entries)) := by
    have inStoreMode : Run.destination (intake.settings runtime) = .toStore := rfl
    have sameDiscovery : (intake.settings runtime).discovery = intake.discovery := rfl
    rw [inStoreMode, sameDiscovery, intake.single]
    simp only [Run.discoverAll, finds, Except.map, List.append_nil]
  simp only [Run.plan, runnable, connects, loads, findsAll]
  rfl

theorem markerId_inj {name other : String} (isName : Path.IsName name)
    (otherIsName : Path.IsName other) :
    intake.markerId name = intake.markerId other ↔ name = other := by
  rw [markerId, markerId, marker, marker, DataFileRecord.id_make_inj, pathOf, pathOf,
    Path.fileName_join isName, Path.fileName_join otherIsName]

theorem pathOf_inj {name other : String} (isName : Path.IsName name)
    (otherIsName : Path.IsName other) : intake.pathOf name = intake.pathOf other ↔ name = other :=
  Path.join_inj isName otherIsName

theorem markerOf?_marker (name : String) {mtime : Int} (bounded : mtime < 2 ^ 63) :
    MemoryStore.markerOf? intake.document.id (intake.marker name mtime).toJson =
      some (intake.marker name mtime) :=
  DataFileRecord.markerOf?_toJson bounded rfl

variable (intake)

/-- Whether a store reflects a history: every file has the marker of its last landing,
and nothing else reads as a marker. -/
structure Reflects (documents : DocumentMap) (landed : List (WorkItem × DocumentMap)) : Prop where
  ascending : Keyed.Ascending documents
  marked : ∀ name, Path.IsName name → Keyed.lookup documents (intake.markerId name) =
    (lastLanding landed (intake.pathOf name)).map fun mtime => (intake.marker name mtime).toJson
  only : ∀ key document, Keyed.lookup documents key = some document →
    MemoryStore.markerOf? intake.document.id document ≠ none →
      ∃ name, Path.IsName name ∧ key = intake.markerId name
  bounded : ∀ name, Path.IsName name → ∀ mtime,
    lastLanding landed (intake.pathOf name) = some mtime → mtime < 2 ^ 63

variable {intake} {documents : DocumentMap} {landed : List (WorkItem × DocumentMap)}

theorem reflects_start : intake.Reflects [] [] where
  ascending := Keyed.ascending_nil
  marked := fun _ _ => rfl
  only := by simp
  bounded := by simp [lastLanding]

/-- The markers in a store that reflects a history are those of last landings. -/
theorem Reflects.eq_of_mem_markers (reflects : intake.Reflects documents landed)
    {record : DataFileRecord}
    (member : record ∈
      (Keyed.values documents).filterMap (MemoryStore.markerOf? intake.document.id)) :
    ∃ name mtime, Path.IsName name ∧ lastLanding landed (intake.pathOf name) = some mtime ∧
      record = intake.marker name mtime := by
  obtain ⟨document, inValues, isMarker⟩ := List.mem_filterMap.mp member
  obtain ⟨⟨key, _⟩, entry, rfl⟩ := List.mem_map.mp inValues
  have found := Keyed.lookup_of_mem reflects.ascending entry
  obtain ⟨name, isName, rfl⟩ := reflects.only key _ found (by simp [isMarker])
  rw [reflects.marked name isName, Option.map_eq_some_iff] at found
  obtain ⟨mtime, lands, same⟩ := found
  rw [← same, markerOf?_marker name (reflects.bounded name isName mtime lands)] at isMarker
  exact ⟨name, mtime, isName, lands, (Option.some.inj isMarker).symm⟩

/-- What is known of a file is the time at which it last landed. -/
theorem Reflects.lookup_latestKnown (reflects : intake.Reflects documents landed) {name : String}
    (isName : Path.IsName name) :
    Keyed.lookup
        (Discovery.latestKnown
          ((Keyed.values documents).filterMap (MemoryStore.markerOf? intake.document.id)))
        (intake.pathOf name) =
      lastLanding landed (intake.pathOf name) := by
  -- A marker with the path of the file is its own marker, as paths tell names apart.
  have ofPath : ∀ record ∈
      (Keyed.values documents).filterMap (MemoryStore.markerOf? intake.document.id),
      record.url = intake.pathOf name →
        lastLanding landed (intake.pathOf name) = some record.mtime := by
    intro record member sameUrl
    obtain ⟨other, mtime, otherIsName, lands, rfl⟩ := reflects.eq_of_mem_markers member
    have same : other = name := (pathOf_inj otherIsName isName).mp sameUrl
    exact same ▸ lands
  cases lands : lastLanding landed (intake.pathOf name) with
  | none =>
      apply Discovery.lookup_latestKnown_eq_none
      intro record member sameUrl
      have landedAt := ofPath record member sameUrl
      rw [lands] at landedAt
      simp at landedAt
  | some mtime =>
      apply Discovery.lookup_latestKnown_of_forall
      · have stored := reflects.marked name isName
        rw [lands] at stored
        have inValues : (intake.marker name mtime).toJson ∈ Keyed.values documents :=
          List.mem_map.mpr ⟨_, Keyed.mem_of_lookup stored, rfl⟩
        exact ⟨intake.marker name mtime,
          List.mem_filterMap.mpr ⟨_, inValues,
            markerOf?_marker name (reflects.bounded name isName mtime lands)⟩, rfl⟩
      · intro record member sameUrl
        have landedAt := ofPath record member sameUrl
        rw [lands] at landedAt
        exact (Option.some.inj landedAt).symm

/-- Over a store that reflects a history, exactly the eligible files that are due are
offered. -/
theorem Reflects.mem_offers (reflects : intake.Reflects documents landed) {files : FileTree}
    {entries : Keyed FileNode} (sees : intake.Sees files entries) {item : WorkItem} :
    item ∈ intake.offers documents entries ↔
      ∃ name mtime, item = intake.item name mtime ∧
        intake.IsEligible entries name mtime ∧ intake.IsDue landed name mtime := by
  -- What discovery calls new is what is due.
  have isNew : ∀ {name : String}, Path.IsName name → ∀ mtime,
      Discovery.isNew (Discovery.latestKnown
          ((Keyed.values documents).filterMap (MemoryStore.markerOf? intake.document.id)))
        ⟨intake.pathOf name, mtime⟩ = true ↔ intake.IsDue landed name mtime := by
    intro name isName mtime
    rw [Discovery.isNew, reflects.lookup_latestKnown isName, IsDue]
    cases lastLanding landed (intake.pathOf name) with
    | none => simp
    | some landedAt => simp
  rw [offers, List.mem_map]
  constructor
  · rintro ⟨candidate, selected, rfl⟩
    obtain ⟨listed, admitted, new⟩ := Discovery.mem_select.mp selected
    obtain ⟨⟨name, node⟩, entry, isCandidate⟩ := List.mem_filterMap.mp listed
    cases node with
    | folder inner => simp at isCandidate
    | file content modified =>
        dsimp only at isCandidate
        split at isCandidate
        · next matching =>
            cases isCandidate
            have isName := sees.names _ entry
            exact ⟨name, _, rfl, ⟨⟨content, modified, entry, rfl⟩, matching, admitted⟩,
              (isNew isName _).mp new⟩
        · simp at isCandidate
  · rintro ⟨name, mtime, rfl, ⟨⟨content, modified, entry, rfl⟩, matching, admitted⟩, due⟩
    have isName := sees.names _ entry
    refine ⟨⟨intake.pathOf name, Discovery.listedTime modified⟩, ?_, rfl⟩
    refine Discovery.mem_select.mpr ⟨?_, admitted, (isNew isName _).mpr due⟩
    exact List.mem_filterMap.mpr ⟨_, entry, by simp [matching]⟩

end Intake

end DocumentIngest
