import DocumentIngest.Run

/-!
# Planning

What a run does before its first worker starts only reads.  Over the store in
memory the archive stays as it is, whether the run goes on or fails; connecting may
use up some of the refusals that the store is armed with.  A job file says what its
text says, wherever it stands.
-/

namespace DocumentIngest

namespace MemoryStore

theorem documents_connect (store : MemoryStore) :
    store.connect.1.documents = store.documents := by
  unfold connect
  split <;> rfl

/-- Connecting changes nothing but the number of refusals that are left. -/
theorem connectWithin_fst (retries : Nat) (store : MemoryStore) :
    ∃ refusals, (DocumentStore.connectWithin retries store).1 = { store with refusals } := by
  induction retries generalizing store with
  | zero =>
      obtain ⟨documents, refusals, timeouts⟩ := store
      cases refusals with
      | zero => exact ⟨0, rfl⟩
      | succ refusals => exact ⟨refusals, rfl⟩
  | succ retries ih =>
      obtain ⟨documents, refusals, timeouts⟩ := store
      cases refusals with
      | zero => exact ⟨0, rfl⟩
      | succ refusals => exact ih ⟨documents, refusals, timeouts⟩

end MemoryStore

namespace Layer

/-- A file whose content reads as an object is the layer of its fields. -/
theorem ofFile_of_read? {format : Format} {files : FileTree} {path text : String}
    {fields : Json.Fields} (reads : files.read? path = some text.toUTF8.data.toList)
    (parses : format.read? text = some (.object fields)) :
    ofFile format files path = .ok fields := by
  have decodes : String.fromUTF8? text.toUTF8 = some text := by
    have valid : text.toUTF8.IsValidUTF8 := text.isValidUTF8
    rw [String.fromUTF8?, dif_pos valid]
    rfl
  simp only [ofFile, reads, Array.toArray_toList]
  rw [decodes, Option.bind_some, parses]

end Layer

namespace Job

/-- A file that reads as a job is loaded as that. -/
theorem ofFile_of_read? {files : FileTree} {path text : String} {fields : Json.Fields} {job : Job}
    (reads : files.read? path = some text.toUTF8.data.toList)
    (parses : (formatOf path).read? text = some (.object fields))
    (shaped : ofFields fields = .ok job) : ofFile files path = .ok job.normalize := by
  have present : files.exists? path = true := by
    rw [FileTree.read?] at reads
    rw [FileTree.exists?]
    cases found : files.find? path with
    | none => simp [found] at reads
    | some node => rfl
  rw [ofFile, if_pos present, Layer.ofFile_of_read? reads parses]
  simp only [Except.bind, shaped]
  rfl

theorem fetchAs_fst {α : Type} (reader : Shape.Reader α) (attempt reading : String)
    (store : MemoryStore) (id : String) :
    (fetchAs reader attempt reading store id).1 = store := by
  simp only [fetchAs, DocumentStore.fetch]
  cases store.fetch id <;> rfl

theorem fetchDocuments_fst (key : String) (store : MemoryStore) (ids : List String) :
    (fetchDocuments key store ids).1 = store := by
  induction ids with
  | nil => rfl
  | cons id rest ih =>
      have first := fetchAs_fst IngestDocument.ofJson
        ("💀 Job '" ++ key ++ "' references ingest document '" ++ id ++ "'")
        ("💀 Ingest document '" ++ id ++ "' did not parse") store id
      rw [fetchDocuments]
      split
      · next fetched =>
          rw [fetched] at first
          exact first
      · next fetched =>
          rw [fetched] at first
          cases first
          exact ih

theorem load_fst (source : JobSource) (files : FileTree) (store : MemoryStore) :
    (load source files store).1 = store := by
  unfold load
  split
  · rfl
  · next id _ _ =>
      have first := fetchAs_fst Stored.ofJson
        ("💀 Could not fetch job '" ++ storeKey id ++ "' from the store")
        ("💀 Job '" ++ storeKey id ++ "' is not shaped like a job") store (storeKey id)
      rw [ofStore]
      split
      · next fetched =>
          rw [fetched] at first
          exact first
      · next fetched =>
          rw [fetched] at first
          cases first
          exact fetchDocuments_fst _ _ _
  · rfl

end Job

namespace Run

variable (archive : Archive MemoryStore)

theorem loadJob_fst (settings : Settings) : (loadJob settings archive).1 = archive := by
  have loaded := Job.load_fst settings.job archive.files archive.store
  unfold loadJob
  split
  · next loads =>
      rw [loads] at loaded
      cases loaded
      rfl
  · next loads =>
      rw [loads] at loaded
      cases loaded
      rfl

theorem discover_fst (settings : DiscoverySettings) (destination : Destination)
    (document : IngestDocument) : (discover settings destination archive document).1 = archive := by
  unfold discover discoverFiles
  cases document.recordIds.isEmpty with
  | false => rfl
  | true =>
      cases document.inputDirectory.or settings.inputDirectory with
      | none => rfl
      | some directory =>
          simp only [if_true]
          cases Discovery.candidatesIn archive.files directory
              ((document.filePattern.or settings.filePattern).getD anyName) with
          | error failure => rfl
          | ok candidates => cases destination <;> rfl

theorem discoverAll_fst (settings : DiscoverySettings) (destination : Destination)
    (list : List IngestDocument) : (discoverAll settings destination archive list).1 = archive := by
  induction list with
  | nil => rfl
  | cons document rest ih =>
      have first := discover_fst archive settings destination document
      rw [discoverAll]
      split
      · next discovered =>
          rw [discovered] at first
          exact first
      · next discovered =>
          rw [discovered] at first
          cases first
          exact ih

/-- A run writes nothing before its first worker starts. -/
theorem plan_fst (settings : Settings) :
    ∃ refusals,
      (plan settings archive).1 = { archive with store := { archive.store with refusals } } := by
  obtain ⟨refusals, connected⟩ :=
    MemoryStore.connectWithin_fst settings.runtime.connectRetries archive.store
  unfold plan
  split
  · exact ⟨archive.store.refusals, rfl⟩
  · have reached : (connect settings archive).1 =
        { archive with store := { archive.store with refusals } } := by
      simp only [connect, connected]
    split
    · next connects =>
        rw [connects] at reached
        exact ⟨refusals, reached⟩
    · next later _ connects =>
        rw [connects] at reached
        have loaded := loadJob_fst later settings
        split
        · next loads =>
            rw [loads] at loaded
            exact ⟨refusals, loaded.trans reached⟩
        · next job loads =>
            rw [loads] at loaded
            dsimp only at loaded
            subst loaded
            exact ⟨refusals, (discoverAll_fst _ _ _ _).trans reached⟩

end Run

end DocumentIngest
