import DocumentIngest.Proofs.BulkActions
import DocumentIngest.Proofs.ItemEffects
import DocumentIngest.Proofs.NestedDocuments

/-!
# Documents that can be stored

Every document that is built is an object with the id it stands under, so no store
refuses a batch of them for want of an id.  The ids of one build differ, and so the
store in memory holds each document under its id as soon as the batch is written, but
for one that a marker of the same id covers.
-/

namespace DocumentIngest

section Building

variable {Holds : DocumentMap → Prop} {compiled : CompiledDocument}

/-- What putting any document under any id keeps is kept by an id list. -/
theorem RowPerDocument.documents_addElements_induction
    (put : ∀ documents id document, Holds documents → Holds (Keyed.insert documents id document))
    (body : Json) (width index : Nat) (elements : List Json) {outcome : BuildOutcome}
    (start : Holds outcome.documents) :
    Holds (addElements body width index outcome elements).documents := by
  induction elements generalizing index outcome with
  | nil => exact start
  | cons element rest ih =>
      rw [addElements]
      apply ih
      split
      · exact put _ _ _ start
      · exact start

theorem RowPerDocument.documents_addRow_induction
    (put : ∀ documents id document, Holds documents → Holds (Keyed.insert documents id document))
    (context : RowContext) {outcome : BuildOutcome} (start : Holds outcome.documents) :
    Holds (addRow compiled context outcome).documents := by
  rw [addRow]
  split
  · exact start
  · exact start
  · split
    · exact start
    · dsimp only
      split
      · exact documents_addElements_induction put _ _ _ _ start
      · split
        · exact put _ _ _ start
        · exact start

theorem NestedRows.documents_addRow_induction
    (put : ∀ documents id document, Holds documents → Holds (Keyed.insert documents id document))
    (context : RowContext) {outcome : BuildOutcome} (start : Holds outcome.documents) :
    Holds (addRow compiled context outcome).documents := by
  rw [addRow]
  split
  · exact start
  split
  · exact start
  split
  · exact start
  split
  · exact start
  rw [documents_putEntry]
  exact put _ _ _ start

theorem Assembler.ascending_assemble (builder : BuilderType) (compiled : CompiledDocument)
    (dataset : Dataset) (parameters : Json.Fields) :
    Keyed.Ascending (assemble builder compiled dataset parameters).documents := by
  have put (documents : DocumentMap) (id : String) (document : Json)
      (ascending : Keyed.Ascending documents) :
      Keyed.Ascending (Keyed.insert documents id document) :=
    Keyed.ascending_insert ascending id document
  rw [assemble_eq]
  apply BuildOutcome.afterRows_invariant fun _ outcome => Keyed.Ascending outcome.documents
  · exact Keyed.ascending_nil
  · intro row outcome ascending
    cases builder with
    | rowPerDocument => exact RowPerDocument.documents_addRow_induction put _ ascending
    | nestedRows => exact NestedRows.documents_addRow_induction put _ ascending

end Building

namespace Delivery

/-- Whether a delivery is lost because the store answers with a fault. -/
def FailsWith (fault : StoreError) : Delivery → Prop
  | lost reason => reason.cause = .store fault
  | _ => False

end Delivery

namespace Destination

variable {σ : Type} [DocumentStore σ] {archive : Archive σ} {item : WorkItem}
  {documents : DocumentMap} {marker : Option DataFileRecord} {fault : StoreError}

theorem upsert_of_sendBatch {batch : List Json}
    (sent : (sendBatch archive batch).2 = .error fault) :
    (DocumentStore.upsert archive.store batch).2 = .error fault := by
  rw [sendBatch] at sent
  exact Fallible.map_eq_error_iff.mp sent

omit [DocumentStore σ] in
theorem cause_of_writeFile {directory path : String} {value : Json} {failure : Failure}
    (refused : (writeFile archive directory path value).2 = .error failure) :
    failure.cause = .system := by
  rw [writeFile] at refused
  split at refused
  · cases refused
    rfl
  · split at refused
    · cases refused
      rfl
    · cases refused

/-- A delivery only fails with what the store says to the batch of its work item. -/
theorem upsert_of_failsWith {destination : Destination}
    (fails : (destination.deliver archive item documents marker).2.FailsWith fault) :
    (DocumentStore.upsert archive.store (batch documents marker)).2 = .error fault := by
  unfold deliver at fails
  split at fails
  -- without documents there is at most the marker to send
  · next nothing =>
      have empty : documents = [] := List.isEmpty_iff.mp nothing
      subst empty
      split at fails
      · cases fails
      · next refused =>
          cases fails
          unfold markConsumed at refused
          split at refused
          · exact upsert_of_sendBatch (congrArg Prod.snd refused)
          · cases refused
  · split at fails
    · split at fails
      · cases fails
      · next refused =>
          cases fails
          exact upsert_of_sendBatch (congrArg Prod.snd refused)
    · split at fails
      · cases fails
      · next refused =>
          have system := cause_of_writeFile (congrArg Prod.snd refused)
          rw [Delivery.FailsWith, system] at fails
          cases fails

theorem exists_failsWith_of_lost
    (isLost : (toStore.deliver archive item documents marker).2.isLost = true) :
    ∃ fault, (toStore.deliver archive item documents marker).2.FailsWith fault := by
  revert isLost
  unfold deliver
  split
  · rcases toStore.markConsumed archive marker with ⟨later, fault | _⟩
    · exact fun _ => ⟨fault, rfl⟩
    · exact nofun
  · simp only
    rcases sendBatch archive (batch documents marker) with ⟨later, fault | _⟩
    · exact fun _ => ⟨fault, rfl⟩
    · exact nofun

end Destination

namespace StoreError

theorem failure_ne_noId {text : String} (other : text.toList.head? ≠ some 'd') :
    failure text ≠ noId := by
  rintro same
  cases same
  exact other (by decide)

end StoreError

namespace ElasticsearchStore

variable {τ : Type} [WebServer τ] {store : ElasticsearchStore τ}

theorem endpoint_ne_noId (settings : ElasticsearchSettings) (segments : List String) :
    settings.endpoint segments ≠ .error .noId := by
  intro same
  rw [ElasticsearchSettings.endpoint] at same
  split at same
  · exact StoreError.failure_ne_noId (by simp) (Except.error.inj same)
  · split at same
    · cases same
    · exact StoreError.failure_ne_noId (by simp) (Except.error.inj same)

theorem send_ne_noId (method : WebMethod) (url : Url) (contentType : Option String)
    (body : String) : (store.send method url contentType body).2 ≠ .error .noId := by
  intro same
  simp only [send] at same
  split at same
  · split at same
    · cases same
    · exact StoreError.failure_ne_noId (by decide) (Except.error.inj same)
  · exact StoreError.failure_ne_noId (by decide) (Except.error.inj same)

theorem decode_ne_noId (reply : WebReply) : decode reply ≠ .error .noId := by
  intro same
  rw [decode] at same
  cases read : Json.readText reply.content with
  | ok value =>
      rw [read] at same
      cases same
  | error fault =>
      rw [read] at same
      exact StoreError.failure_ne_noId (by decide) (Except.error.inj same)

theorem bulkResult_ne_noId (reply : WebReply) (count : Nat) :
    bulkResult reply count ≠ .error .noId := by
  intro same
  simp only [bulkResult, bind, Except.bind, throw, throwThe, MonadExceptOf.throw] at same
  split at same
  · exact StoreError.failure_ne_noId (by simp) (Except.error.inj same)
  split at same
  · next undecoded =>
      cases same
      exact decode_ne_noId reply undecoded
  split at same
  · exact StoreError.failure_ne_noId (by simp [toString]) (Except.error.inj same)
  · cases same

/-- Documents with ids may not reach the cluster, or be rejected, but never for want of
an id. -/
theorem upsert_ne_noId {batch : List Json} {entries : List (String × Json)}
    (keyed : MemoryStore.keyed? batch = some entries) :
    (store.upsert batch).2 ≠ .error .noId := by
  obtain ⟨body, prepared, _⟩ := store.settings.bulkBody_of_keyed? keyed
  intro same
  simp only [upsert, prepared, bind, Except.bind] at same
  split at same
  · cases same
  cases addressed : store.settings.endpoint ["_bulk"] with
  | error fault =>
      rw [addressed] at same
      cases same
      exact endpoint_ne_noId _ _ addressed
  | ok url =>
      rw [addressed] at same
      simp only [pure, Except.pure] at same
      split at same
      · next refused =>
          cases same
          exact send_ne_noId _ _ _ _ (congrArg Prod.snd refused)
      · exact bulkResult_ne_noId _ _ same

end ElasticsearchStore

namespace MemoryStore

theorem lookup_overlay_of_mem {entries : List (String × Json)}
    (ascending : Keyed.Ascending entries) {entry : String × Json} (member : entry ∈ entries)
    (documents : DocumentMap) :
    Keyed.lookup (overlay documents entries) entry.1 = some entry.2 := by
  induction entries generalizing documents with
  | nil => cases member
  | cons first rest ih =>
      obtain ⟨below, behind⟩ := List.pairwise_cons.mp ascending
      rcases List.mem_cons.mp member with rfl | later
      · have unwritten : entry.1 ∉ Keyed.keys rest := by
          intro again
          obtain ⟨other, inRest, same⟩ := List.mem_map.mp again
          exact String.lt_irrefl _ (same ▸ below other inRest)
        have kept := lookup_overlay_of_not_mem unwritten
          (Keyed.insert documents entry.1 entry.2)
        rw [Keyed.lookup_insert_self] at kept
        exact kept
      · exact ih behind later (Keyed.insert documents first.1 first.2)

end MemoryStore

namespace Destination

/-- A marker covers nothing but a document with its own id. -/
theorem lookup_overlay_entries {documents : DocumentMap}
    (ascending : Keyed.Ascending documents) {entry : String × Json} (member : entry ∈ documents)
    {marker : Option DataFileRecord} (uncovered : ∀ record ∈ marker, record.id ≠ entry.1)
    (stored : DocumentMap) :
    Keyed.lookup (MemoryStore.overlay stored (entries documents marker)) entry.1 =
      some entry.2 := by
  have built := MemoryStore.lookup_overlay_of_mem ascending member stored
  have aside : entry.1 ∉ Keyed.keys (marker.toList.map fun record => (record.id, record.toJson)) := by
    intro covered
    simp only [Keyed.keys, List.map_map, List.mem_map, Option.mem_toList] at covered
    obtain ⟨record, present, same⟩ := covered
    exact uncovered record present same
  rw [entries, MemoryStore.overlay, List.foldl_append]
  rw [← built]
  exact MemoryStore.lookup_overlay_of_not_mem aside (MemoryStore.overlay stored documents)

/-- Documents that carry their ids do not fail for want of them in the store in
memory: there only a write that times out fails. -/
theorem eq_timeout_of_failsWith {archive : Archive MemoryStore} {documents : DocumentMap}
    {marker : Option DataFileRecord}
    (carried : ∀ entry ∈ entries documents marker, entry.2.textField? "id" = some entry.1)
    {destination : Destination} {item : WorkItem} {fault : StoreError}
    (fails : (destination.deliver archive item documents marker).2.FailsWith fault) :
    fault = .timeout "simulated write timeout" := by
  have refused := upsert_of_failsWith fails
  rw [batch_eq] at refused
  simp only [DocumentStore.upsert] at refused
  rcases archive.store.upsert_of_carried carried with ⟨_, taken⟩ | ⟨_, _, timedOut⟩
  · rw [taken] at refused
    cases refused
  · rw [timedOut] at refused
    exact (Except.error.inj refused).symm

end Destination

/-- Whether documents can be stored under their own ids, with or without a marker. -/
structure DocumentMap.IsStorable (built : DocumentMap) : Prop where
  carries : ∀ entry ∈ built,
    ∃ fields, entry.2 = .object fields ∧ Keyed.lookup fields "id" = some (.string entry.1)
  /-- Whether in memory or in a cluster, nothing is refused for want of an id. -/
  memory : ∀ (destination : Destination) (archive : Archive MemoryStore) (item : WorkItem)
    (marker : Option DataFileRecord),
    ¬(destination.deliver archive item built marker).2.FailsWith .noId
  cluster : ∀ {τ : Type} [WebServer τ] (destination : Destination)
    (archive : Archive (ElasticsearchStore τ)) (item : WorkItem)
    (marker : Option DataFileRecord),
    ¬(destination.deliver archive item built marker).2.FailsWith .noId
  /-- In memory each document is stored, but for one that the marker covers, unless the
  write times out. -/
  stored : ∀ (archive : Archive MemoryStore) (item : WorkItem) (marker : Option DataFileRecord),
    (∃ text, (Destination.toStore.deliver archive item built marker).2.FailsWith
      (.timeout text)) ∨
    ∀ entry ∈ built, (∀ record ∈ marker, record.id ≠ entry.1) →
      Keyed.lookup (Destination.toStore.deliver archive item built marker).1.store.documents
        entry.1 = some entry.2

/-- Every outcome of a build can be stored, whichever builder it comes from. -/
theorem Assembler.isStorable_assemble {document : IngestDocument} {compiled : CompiledDocument}
    (compiles : CompiledDocument.compile document = .ok compiled) (builder : BuilderType)
    (dataset : Dataset) (parameters : Json.Fields) :
    (assemble builder compiled dataset parameters).documents.IsStorable := by
  have ascending := ascending_assemble builder compiled dataset parameters
  have carries := all_assemble (CompiledDocument.ensures_carries compiles) builder dataset parameters
  constructor
  · exact carries
  · intro destination archive item marker fails
    cases Destination.eq_timeout_of_failsWith (Destination.carried_entries carries marker) fails
  · intro τ _ destination archive item marker fails
    have keyed := MemoryStore.keyed?_of_carried (Destination.carried_entries carries marker)
    rw [← Destination.batch_eq] at keyed
    exact ElasticsearchStore.upsert_ne_noId keyed (Destination.upsert_of_failsWith fails)
  · intro archive item marker
    have carried := Destination.carried_entries carries marker
    obtain ⟨received, isLost⟩ := Destination.deliver_memory archive item carried
    -- the batch is refused as a whole, and then for its time only, or it is all laid over
    by_cases timesOut : archive.store.TimesOut (Destination.entries
        (assemble builder compiled dataset parameters).documents marker)
    · obtain ⟨fault, fails⟩ := Destination.exists_failsWith_of_lost (isLost.mpr timesOut)
      have timeout := Destination.eq_timeout_of_failsWith carried fails
      exact .inl ⟨_, timeout ▸ fails⟩
    · right
      intro entry member uncovered
      rw [received, MemoryStore.documents_receive timesOut]
      exact Destination.lookup_overlay_entries ascending member uncovered _

theorem Assembler.isStorable_assemble_readings :
    CompiledDocument.compile .readings = .ok .readings ∧
      (assemble .nestedRows .readings .twoReadings []).documents.IsStorable ∧
      (assemble .nestedRows .readings .twoReadings []).documents.length = 1 ∧
      (assemble .rowPerDocument .readings .twoReadings []).documents.IsStorable ∧
      (assemble .rowPerDocument .readings .twoReadings []).documents.length = 1 := by
  have compiles : CompiledDocument.compile .readings = .ok .readings := rfl
  have nested := isStorable_assemble compiles .nestedRows .twoReadings []
  have rowPerDocument := isStorable_assemble compiles .rowPerDocument .twoReadings []
  exact ⟨compiles, nested, by decide, rowPerDocument, by decide⟩

end DocumentIngest
