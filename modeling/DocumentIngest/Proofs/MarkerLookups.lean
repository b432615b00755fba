import DocumentIngest.Proofs.Fallible
import DocumentIngest.Proofs.MarkerPages
import DocumentIngest.Proofs.RecordFields
import DocumentIngest.Store.Memory
import DocumentIngest.Web.Script

/-!
# Whose markers a look-up gives

The store in memory compares type and ingest document of every document it looks
at, so what it gives are markers of the ingest document it was asked for.  A
cluster is only asked for such markers: whatever its replies hold is taken, page
by page, without another look at whose markers they are.
-/

namespace DocumentIngest

namespace DataFileRecord

/-- Whether a record is a marker of an ingest document. -/
def IsOf (documentId : String) (record : DataFileRecord) : Prop :=
  record.recordType = type ∧ record.ingestDocument = documentId

/-- The fields of a marker, as they are read. -/
def fields : List (Shape.Field DataFileRecord) :=
  [Shape.required "id" Shape.text fun record id => { record with id },
    Shape.required "type" Shape.text fun record recordType => { record with recordType },
    Shape.required "subset" Shape.text fun record subset => { record with subset },
    Shape.required "builder_type" Shape.text fun record builder => { record with builder },
    Shape.required "url" Shape.text fun record url => { record with url },
    Shape.required "mtime" Shape.integer fun record mtime => { record with mtime },
    Shape.required "ingest_document" Shape.text
      fun record ingestDocument => { record with ingestDocument }]

theorem ofJson_eq (value : Json) : ofJson value = Shape.record .strict fields default value := rfl

/-- The names of the texts of a marker, with the texts. -/
def texts : List (String × (DataFileRecord → String)) :=
  [("id", id), ("type", recordType), ("subset", subset), ("builder_type", builder), ("url", url),
    ("ingest_document", ingestDocument)]

theorem readsText_of_mem {entry : String × (DataFileRecord → String)} (member : entry ∈ texts) :
    Shape.ReadsText fields entry.1 entry.2 := by
  simp only [texts, List.mem_cons, List.not_mem_nil, or_false] at member
  constructor
  · rcases member with rfl | rfl | rfl | rfl | rfl | rfl <;>
      simp [fields, Shape.required, Shape.Field.name]
  · rcases member with rfl | rfl | rfl | rfl | rfl | rfl <;>
      simp [fields, Shape.required, Shape.Field.name]
  · rcases member with rfl | rfl | rfl | rfl | rfl | rfl <;>
      simp [fields, Shape.required, Shape.Field.name]
  · intro field inFields own record value stored store
    simp only [fields, List.mem_cons, List.not_mem_nil, or_false] at inFields
    rcases member with rfl | rfl | rfl | rfl | rfl | rfl <;>
      rcases inFields with rfl | rfl | rfl | rfl | rfl | rfl | rfl <;>
        first
          | exact absurd own (by decide)
          | obtain ⟨content, read, rfl⟩ := Fallible.map_eq_ok_iff.mp store
            exact Shape.text_eq_ok_iff.mp read
  · intro field inFields different record value stored store
    simp only [fields, List.mem_cons, List.not_mem_nil, or_false] at inFields
    rcases member with rfl | rfl | rfl | rfl | rfl | rfl <;>
      rcases inFields with rfl | rfl | rfl | rfl | rfl | rfl | rfl <;>
        first
          | exact absurd rfl different
          | obtain ⟨content, read, rfl⟩ := Fallible.map_eq_ok_iff.mp store
            rfl

/-- The texts of a marker stand in the object that it was read from. -/
theorem textField?_of_ofJson {entries : Json.Fields} {record : DataFileRecord}
    (read : ofJson (.object entries) = .ok record)
    {entry : String × (DataFileRecord → String)} (member : entry ∈ texts) :
    (Json.object entries).textField? entry.1 = some (entry.2 record) := by
  have required : ∀ field ∈ fields, field.name = entry.1 → field.required = true := by
    intro field inFields _
    simp only [fields, List.mem_cons, List.not_mem_nil, or_false] at inFields
    rcases inFields with rfl | rfl | rfl | rfl | rfl | rfl | rfl <;> rfl
  rw [ofJson_eq] at read
  have found := Shape.lookup_of_record (readsText_of_mem member) required read
  rw [Json.textField?, Json.field?, found]
  rfl

end DataFileRecord

/-- Whether the markers that a store gives for an ingest document are its own. -/
def DocumentStore.GivesOwnMarkers {σ : Type} [DocumentStore σ] (store : σ) : Prop :=
  ∀ documentId records, (DocumentStore.markers store documentId).2 = .ok records →
    ∀ record ∈ records, record.IsOf documentId

namespace MemoryStore

/-- A document that counts as a marker is one of the ingest document asked for. -/
theorem isOf_of_markerOf? {documentId : String} {document : Json} {record : DataFileRecord}
    (found : markerOf? documentId document = some record) : record.IsOf documentId := by
  rw [markerOf?] at found
  split at found
  · next typed =>
      obtain ⟨isMarker, sameDocument⟩ := typed
      cases document with
      | object entries =>
          have read := Fallible.eq_ok_of_toOption found
          have recordType := DataFileRecord.textField?_of_ofJson read
            (show ("type", DataFileRecord.recordType) ∈ DataFileRecord.texts by
              simp [DataFileRecord.texts])
          have ingestDocument := DataFileRecord.textField?_of_ofJson read
            (show ("ingest_document", DataFileRecord.ingestDocument) ∈ DataFileRecord.texts by
              simp [DataFileRecord.texts])
          rw [isMarker] at recordType
          rw [sameDocument] at ingestDocument
          exact ⟨(Option.some.inj recordType).symm, (Option.some.inj ingestDocument).symm⟩
      | _ => cases isMarker
  · cases found

theorem givesOwnMarkers (store : MemoryStore) : DocumentStore.GivesOwnMarkers store := by
  intro documentId records given record member
  cases given
  obtain ⟨document, _, found⟩ := List.mem_filterMap.mp member
  exact isOf_of_markerOf? found

end MemoryStore

namespace ElasticsearchStore

/-- The markers that a reply to a search holds. -/
def markersIn (reply : WebReply) : List DataFileRecord :=
  match pageResult reply with
  | .ok (some page) => page.markers
  | _ => []

variable {store after : ElasticsearchStore ScriptedServer}

/-- A server that was reached hands out the next reply of its script. -/
theorem replies_of_send {method : WebMethod} {url : Url} {contentType : Option String}
    {body : String} {reply : WebReply}
    (sent : store.send method url contentType body = (after, .ok reply)) :
    reply = store.server.replies.headD ScriptedServer.exhausted ∧
      after.server.replies = store.server.replies.tail := by
  rw [send] at sent
  split at sent
  · by_cases stands : store.server.standsAt url = true
    · simp only [WebServer.answer, ScriptedServer.answer, if_pos stands] at sent
      cases sent
      exact ⟨rfl, rfl⟩
    · simp only [WebServer.answer, ScriptedServer.answer, if_neg stands] at sent
      cases sent
  · cases sent

/-- What is read page by page is what the replies used for it hold. -/
theorem readPages_replies {url : Url} {documentId : String} {known records : List DataFileRecord}
    {cursor : Option Json} {pages : Nat}
    (read : readPages url documentId known cursor pages store = (after, .ok records)) :
    ∃ replies, store.server.replies = replies ++ after.server.replies ∧
      records = known ++ replies.flatMap markersIn := by
  induction pages generalizing store known cursor with
  | zero =>
      cases read
      exact ⟨[], rfl, (List.append_nil _).symm⟩
  | succ pages ih =>
      rw [readPages] at read
      split at read
      · cases read
      next asked reply sent =>
        obtain ⟨given, left⟩ := replies_of_send sent
        cases script : store.server.replies with
        | nil =>
            rw [script] at given
            have refused : pageResult reply = .error (.failure
                ("_search answered " ++ reply.statusLine ++ ": " ++ reply.content)) := by
              rw [given]
              rfl
            rw [refused] at read
            cases read
        | cons first rest =>
            rw [script] at given left
            obtain rfl : reply = first := given
            split at read
            · cases read
            · next nothing =>
                cases read
                have empty : markersIn reply = [] := by
                  rw [markersIn, nothing]
                exact ⟨[reply], by rw [left]; rfl, by simp [empty]⟩
            · next page received =>
                have full : markersIn reply = page.markers := by
                  rw [markersIn, received]
                simp only at read
                split at read
                · cases read
                  exact ⟨[reply], by rw [left]; rfl, by simp [full]⟩
                · split at read
                  · cases read
                    exact ⟨[reply], by rw [left]; rfl, by simp [full]⟩
                  · obtain ⟨replies, used, held⟩ := ih read
                    refine ⟨reply :: replies, ?_, ?_⟩
                    · rw [List.cons_append, ← used, left]
                      rfl
                    · rw [held, List.flatMap_cons, full, List.append_assoc]

/-- A page that is not full is the last one. -/
theorem readPages_lastPage {url : Url} {documentId : String} {cursor : Option Json}
    {reply : WebReply} {page : Page} (known : List DataFileRecord) (pages : Nat)
    (sent : store.send .post url (some "application/json")
      (pageQuery store.pageSize documentId cursor).compact = (after, .ok reply))
    (received : pageResult reply = .ok (some page))
    (short : page.hits.length < after.pageSize) :
    readPages url documentId known cursor (pages + 1) store =
      (after, .ok (known ++ page.markers)) := by
  simp only [readPages, sent, received, if_pos short]

/-- The store in memory gives the markers of the ingest document asked for, and no
others.  A cluster gives what the replies hold that were used for the look-up, so
it does so exactly if they hold no others. -/
theorem markers_held_or_served (memory : MemoryStore) {documentId : String}
    {records : List DataFileRecord} (given : store.markers documentId = (after, .ok records)) :
    DocumentStore.GivesOwnMarkers memory ∧
      ∃ replies, store.server.replies = replies ++ after.server.replies ∧
        records = replies.flatMap markersIn ∧
        ((∀ record ∈ records, record.IsOf documentId) ↔
          ∀ reply ∈ replies, ∀ record ∈ markersIn reply, record.IsOf documentId) := by
  refine ⟨memory.givesOwnMarkers, ?_⟩
  rw [markers] at given
  split at given
  · cases given
  · obtain ⟨replies, used, held⟩ := readPages_replies given
    rw [List.nil_append] at held
    refine ⟨replies, used, held, ?_⟩
    simp only [held, List.mem_flatMap, forall_exists_index, and_imp]
    exact ⟨fun own reply member record inReply => own record reply member inReply,
      fun own record reply member inReply => own reply member record inReply⟩

/-- A marker of the ingest document `obs-daily`. -/
def dailyMarker : DataFileRecord :=
  ⟨"DF::rows:obs-daily:a.json", DataFileRecord.type, "", "rows", "in/a.json", 5, "obs-daily"⟩

/-- A cluster whose next reply holds the marker of `obs-daily`. -/
def dailyCluster : ElasticsearchStore ScriptedServer where
  settings := { url := "http://es:9200", index := "weather" }
  pageLimit := 1
  server :=
    { host := "es"
      port := 9200
      replies := [⟨200, (MarkerServer.pageReply
        [MarkerServer.markerHit 1 dailyMarker.toJson]).compact⟩] }

/-- The marker is given whatever ingest document is asked for. -/
theorem markers_dailyCluster (documentId : String) :
    ∃ after, dailyCluster.markers documentId = (after, .ok [dailyMarker]) := by
  have plain : Json.IsPlain 10
      (MarkerServer.pageReply [MarkerServer.markerHit 1 dailyMarker.toJson]) :=
    Json.isPlain_of_checkPlain (by decide)
  have received := pageResult_pageReply (Json.readText_compact plain (by decide))
  have isMarker : (MarkerServer.markerHit 1 dailyMarker.toJson).marker? = some dailyMarker := by
    decide
  have endpoint : dailyCluster.settings.endpoint [dailyCluster.settings.index, "_search"] = .ok
      ⟨"http", "", some "es", some 9200, .segments ["weather", "_search"], none, none⟩ := rfl
  have sent (body : String) : ∃ server, dailyCluster.send .post
      ⟨"http", "", some "es", some 9200, .segments ["weather", "_search"], none, none⟩
      (some "application/json") body = ({ dailyCluster with server }, .ok ⟨200,
        (MarkerServer.pageReply [MarkerServer.markerHit 1 dailyMarker.toJson]).compact⟩) :=
    ⟨_, rfl⟩
  obtain ⟨server, sent⟩ := sent (pageQuery dailyCluster.pageSize documentId none).compact
  have short : 1 < dailyCluster.pageSize := by decide
  have read := readPages_lastPage [] 0 sent received short
  rw [markers_page, List.filterMap_cons, isMarker] at read
  refine ⟨{ dailyCluster with server }, ?_⟩
  rw [markers, endpoint]
  exact read

theorem markers_held_or_served_daily :
    DocumentStore.GivesOwnMarkers ({} : MemoryStore) ∧
      ∃ after, dailyCluster.markers "obs-daily" = (after, .ok [dailyMarker]) ∧
        ∃ replies, dailyCluster.server.replies = replies ++ after.server.replies ∧
          [dailyMarker] = replies.flatMap markersIn ∧
          ((∀ record ∈ [dailyMarker], record.IsOf "obs-daily") ↔
            ∀ reply ∈ replies, ∀ record ∈ markersIn reply, record.IsOf "obs-daily") := by
  obtain ⟨after, given⟩ := markers_dailyCluster "obs-daily"
  obtain ⟨own, served⟩ := markers_held_or_served {} given
  exact ⟨own, after, given, served⟩

/-- A cluster may answer a search for the phrase `obs` with a marker of `obs-daily`,
which is then taken for one of `obs`. -/
theorem not_givesOwnMarkers :
    ¬∀ store : ElasticsearchStore ScriptedServer, DocumentStore.GivesOwnMarkers store := by
  intro giveOwn
  obtain ⟨after, given⟩ := markers_dailyCluster "obs"
  have own := giveOwn dailyCluster "obs" [dailyMarker] (congrArg Prod.snd given) dailyMarker
    List.mem_cons_self
  exact absurd own.2 (by decide)

end ElasticsearchStore

end DocumentIngest
