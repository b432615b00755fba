import DocumentIngest.Proofs.ClusterRequests
import DocumentIngest.Proofs.CompactLines
import DocumentIngest.Proofs.Deliveries
import DocumentIngest.Proofs.JsonRoundTrip
import DocumentIngest.Proofs.Segments

/-!
# Clusters that judge every action

A cluster applies the actions of a bulk request one by one and may reject any of
them.  The reply says that there were errors as soon as one was rejected, and the
delivery is lost then, but what was accepted stays: the marker of a work item, whose
action is the last one, is stored or not as that action is accepted or not.
-/

namespace DocumentIngest

/-- What an action of a bulk request writes. -/
structure BulkAction where
  index : String
  id : String
  source : String
deriving DecidableEq

/-- A cluster that accepts or rejects each action of a request. -/
structure BulkCluster where
  /-- Whether the action at a position of a request is accepted. -/
  accepts : Nat → Bool
  /-- The actions that were applied. -/
  applied : List BulkAction := []

namespace BulkCluster

/-- The source that an index holds under an id, which was written last. -/
def stored? (cluster : BulkCluster) (index id : String) : Option String :=
  (cluster.applied.reverse.find? fun action => action.index == index && action.id == id).map
    BulkAction.source

/-- The index and the id that an action line names. -/
def readTarget? (line : List Char) : Option (String × String) :=
  match Json.readText (String.ofList line) with
  | .error _ => none
  | .ok value =>
      (value.field? "index").bind fun target =>
        (target.textField? "_index").bind fun index =>
          (target.textField? "_id").map fun id => (index, id)

/-- The actions in the lines of a request, whose body ends with a line feed. -/
def readActions? : List (List Char) → Option (List BulkAction)
  | [[]] => some []
  | line :: source :: rest =>
      (readTarget? line).bind fun target =>
        (readActions? rest).map fun actions =>
          ⟨target.1, target.2, String.ofList source⟩ :: actions
  | _ => none

/-- The actions of a request that are accepted. -/
def accepted (cluster : BulkCluster) (actions : List BulkAction) : List BulkAction :=
  (actions.zipIdx.filter fun entry => cluster.accepts entry.2).map Prod.fst

/-- The cluster after a request. -/
def apply (cluster : BulkCluster) (actions : List BulkAction) : BulkCluster :=
  { cluster with applied := cluster.applied ++ cluster.accepted actions }

/-- What became of an action. -/
def itemReply (cluster : BulkCluster) (entry : BulkAction × Nat) : Json :=
  .ofFields
    [("index", .ofFields
      [("_index", .string entry.1.index), ("_id", .string entry.1.id),
        ("status", .ofNat (if cluster.accepts entry.2 then 201 else 400))])]

/-- Whether one of so many actions is rejected. -/
def rejectsAny (cluster : BulkCluster) (count : Nat) : Bool :=
  (List.range count).any fun position => !cluster.accepts position

/-- What became of the actions of a request, and whether any was rejected. -/
def bulkReply (cluster : BulkCluster) (actions : List BulkAction) : Json :=
  .ofFields
    [("errors", .bool (cluster.rejectsAny actions.length)),
      ("items", .array (actions.zipIdx.map cluster.itemReply))]

def answer (cluster : BulkCluster) (request : WebRequest) : BulkCluster × Option WebReply :=
  if request.method = .post ∧ request.url.lastSegment? = some "_bulk" then
    match readActions? (Text.splitOn '\n' request.body.toList) with
    | some actions => (cluster.apply actions, some ⟨200, (cluster.bulkReply actions).compact⟩)
    | none => (cluster, some ⟨400, ""⟩)
  else (cluster, some ⟨404, ""⟩)

instance : WebServer BulkCluster where
  answer := answer

theorem rejectsAny_iff {cluster : BulkCluster} {count : Nat} :
    cluster.rejectsAny count = true ↔ ∃ position < count, cluster.accepts position = false := by
  simp [rejectsAny]

theorem isPlain_bulkReply (cluster : BulkCluster) (actions : List BulkAction) :
    Json.IsPlain 4 (cluster.bulkReply actions) := by
  have item (entry : BulkAction × Nat) : Json.IsPlain 2 (cluster.itemReply entry) := by
    have status : Json.IsPlain 0 (.ofNat (if cluster.accepts entry.2 then 201 else 400)) := by
      split <;> exact .integer (by decide) (by decide)
    apply Json.IsPlain.ofField
    apply Json.IsPlain.ofFields
    intro field member
    simp only [List.mem_cons, List.not_mem_nil, or_false] at member
    rcases member with rfl | rfl | rfl
    · exact .string _
    · exact .string _
    · exact status
  apply Json.IsPlain.ofFields
  intro entry member
  simp only [List.mem_cons, List.not_mem_nil, or_false] at member
  rcases member with rfl | rfl
  · exact .bool _
  · apply Json.IsPlain.array
    intro value inItems
    obtain ⟨action, _, rfl⟩ := List.mem_map.mp inItems
    exact item action

end BulkCluster

namespace ElasticsearchSettings

open BulkCluster (readTarget? readActions?)

/-- The action that stores a document under an id. -/
def bulkAction (settings : ElasticsearchSettings) (entry : String × Json) : BulkAction :=
  ⟨settings.index, entry.1, entry.2.compact⟩

theorem readTarget?_actionLine (settings : ElasticsearchSettings) (id : String) :
    readTarget? (settings.actionLine id).toList = some (settings.index, id) := by
  have plain : Json.IsPlain 2 (.ofFields [("index", .ofFields
      [("_index", .string settings.index), ("_id", .string id)])]) := by
    apply Json.IsPlain.ofField
    apply Json.IsPlain.ofFields
    intro field member
    simp only [List.mem_cons, List.not_mem_nil, or_false] at member
    rcases member with rfl | rfl <;> exact .string _
  rw [readTarget?, String.ofList_toList, actionLine, Json.readText_compact plain (by decide)]
  simp [Json.ofFields, Json.textField?, Json.field?, Keyed.ofPairs, Keyed.lookup_insert,
    Json.asText?]

/-- An action and its document take up one line each, whatever comes behind them. -/
theorem splitOn_lines (settings : ElasticsearchSettings) (id : String) (document : Json)
    (rest : String) :
    Text.splitOn '\n' (settings.actionLine id ++ "\n" ++ document.compact ++ "\n" ++ rest).toList =
      (settings.actionLine id).toList :: document.compact.toList ::
        Text.splitOn '\n' rest.toList := by
  have body : (settings.actionLine id ++ "\n" ++ document.compact ++ "\n" ++ rest).toList =
      (settings.actionLine id).toList ++ '\n' ::
        (document.compact.toList ++ '\n' :: rest.toList) := by
    simp
  have action : '\n' ∉ (settings.actionLine id).toList := Json.feed_not_mem_compact _
  rw [body, Text.splitOn_append, Text.splitOn_of_not_mem action, Text.splitOn_append,
    Text.splitOn_of_not_mem (Json.feed_not_mem_compact document)]
  rfl

/-- The lines of a bulk request are read as the actions it was put together from. -/
theorem bulkBody_of_keyed? (settings : ElasticsearchSettings) {batch : List Json}
    {entries : List (String × Json)} (keyed : MemoryStore.keyed? batch = some entries) :
    ∃ body, settings.bulkBody batch = .ok body ∧
      readActions? (Text.splitOn '\n' body.toList) = some (entries.map settings.bulkAction) := by
  induction batch generalizing entries with
  | nil =>
      cases keyed
      exact ⟨"", rfl, rfl⟩
  | cons document rest ih =>
      rw [MemoryStore.keyed?_cons, Option.bind_eq_some_iff] at keyed
      obtain ⟨id, carried, others⟩ := keyed
      obtain ⟨entries, keyed, rfl⟩ := Option.map_eq_some_iff.mp others
      obtain ⟨lines, body, read⟩ := ih keyed
      refine ⟨settings.actionLine id ++ "\n" ++ document.compact ++ "\n" ++ lines, ?_, ?_⟩
      · rw [bulkBody, carried]
        simp only [body]
        rfl
      · rw [splitOn_lines]
        simp only [readActions?, readTarget?_actionLine, Option.bind_some, read, Option.map_some,
          String.ofList_toList]
        rfl

theorem bulkBody_of_keyed?_eq_none (settings : ElasticsearchSettings) {batch : List Json}
    (unkeyed : MemoryStore.keyed? batch = none) : settings.bulkBody batch = .error .noId := by
  induction batch with
  | nil => cases unkeyed
  | cons document rest ih =>
      rw [MemoryStore.keyed?_cons] at unkeyed
      rw [bulkBody]
      cases carried : document.textField? "id" with
      | none => rfl
      | some id =>
          rw [carried, Option.bind_some, Option.map_eq_none_iff] at unkeyed
          simp only [ih unkeyed]
          rfl

end ElasticsearchSettings

namespace ElasticsearchStore

/-- The reply to a bulk request is taken for an error exactly if an action was
rejected. -/
theorem isOk_bulkResult (cluster : BulkCluster) (actions : List BulkAction) (count : Nat) :
    (bulkResult ⟨200, (cluster.bulkReply actions).compact⟩ count).isOk =
      !cluster.rejectsAny actions.length := by
  have decoded : decode ⟨200, (cluster.bulkReply actions).compact⟩ =
      .ok (cluster.bulkReply actions) := by
    rw [decode, WebReply.content, if_neg (by simp),
      Json.readText_compact (cluster.isPlain_bulkReply actions) (by decide)]
    rfl
  have success : (⟨200, (cluster.bulkReply actions).compact⟩ : WebReply).isSuccess = true := rfl
  have errors : (cluster.bulkReply actions).field? "errors" =
      some (.bool (cluster.rejectsAny actions.length)) := by
    simp [BulkCluster.bulkReply, Json.ofFields, Json.field?, Keyed.ofPairs, Keyed.lookup_insert]
  simp only [bulkResult, success, decoded, bind, Except.bind, errors]
  cases cluster.rejectsAny actions.length <;> rfl

variable {store : ElasticsearchStore BulkCluster} {batch : List Json}

/-- If a document has no id, none of them is sent. -/
theorem upsert_of_keyed?_eq_none (unkeyed : MemoryStore.keyed? batch = none) :
    store.upsert batch = (store, .error .noId) := by
  cases batch with
  | nil => cases unkeyed
  | cons document rest =>
      have body := store.settings.bulkBody_of_keyed?_eq_none unkeyed
      simp only [upsert, List.isEmpty_cons, Bool.false_eq_true, if_false, body]
      rfl

/-- A batch is sent as one request, whose accepted actions are applied. -/
theorem upsert_of_keyed? (isOpen : store.settings.IsOpen) (notEmpty : batch ≠ [])
    {entries : List (String × Json)} (keyed : MemoryStore.keyed? batch = some entries) :
    (store.upsert batch).1 =
        { store with server := store.server.apply (entries.map store.settings.bulkAction) } ∧
      (store.upsert batch).2.isOk = !store.server.rejectsAny entries.length := by
  obtain ⟨body, prepared, read⟩ := store.settings.bulkBody_of_keyed? keyed
  obtain ⟨url, endpoint, sendable, named⟩ :=
    ElasticsearchSettings.exists_endpoint isOpen [] (show Url.StandsAsIs "_bulk" by decide)
  rw [List.nil_append] at endpoint
  have sent : store.send .post url (some "application/x-ndjson") body =
      ({ store with server := store.server.apply (entries.map store.settings.bulkAction) },
        .ok ⟨200, (store.server.bulkReply (entries.map store.settings.bulkAction)).compact⟩) := by
    apply send_of_isOpen isOpen .post sendable
    simp only [WebServer.answer, BulkCluster.answer, named, and_self, if_true, read]
  have isEmpty : batch.isEmpty = false := by
    simpa using notEmpty
  have outcome := isOk_bulkResult store.server (entries.map store.settings.bulkAction) batch.length
  rw [List.length_map] at outcome
  have equal : store.upsert batch =
      ({ store with server := store.server.apply (entries.map store.settings.bulkAction) },
        bulkResult ⟨200, (store.server.bulkReply
          (entries.map store.settings.bulkAction)).compact⟩ batch.length) := by
    simp only [upsert, isEmpty, Bool.false_eq_true, if_false, prepared, endpoint, bind,
      Except.bind, pure, Except.pure, sent]
  rw [equal]
  exact ⟨rfl, outcome⟩

end ElasticsearchStore

namespace BulkCluster

variable {cluster : BulkCluster}

theorem accepted_concat (front : List BulkAction) (last : BulkAction) :
    cluster.accepted (front ++ [last]) =
      cluster.accepted front ++ if cluster.accepts front.length then [last] else [] := by
  rw [accepted, List.zipIdx_append, List.filter_append, List.map_append]
  congr 1
  rw [Nat.zero_add, List.zipIdx_singleton, List.filter_singleton]
  cases cluster.accepts front.length <;> rfl

theorem mem_of_mem_accepted {actions : List BulkAction} {action : BulkAction}
    (member : action ∈ cluster.accepted actions) : action ∈ actions := by
  obtain ⟨entry, kept, rfl⟩ := List.mem_map.mp member
  exact List.fst_mem_of_mem_zipIdx (List.mem_of_mem_filter kept)

theorem stored?_apply_of_accepts {front : List BulkAction} {last : BulkAction}
    (accepts : cluster.accepts front.length = true) :
    (cluster.apply (front ++ [last])).stored? last.index last.id = some last.source := by
  rw [stored?, apply, accepted_concat, if_pos accepts]
  simp

theorem stored?_apply_of_not_mem {actions : List BulkAction} {index id : String}
    (absent : ∀ action ∈ cluster.accepted actions, ¬(action.index = index ∧ action.id = id)) :
    (cluster.apply actions).stored? index id = cluster.stored? index id := by
  have notFound : (cluster.accepted actions).reverse.find? (fun action =>
      action.index == index && action.id == id) = none := by
    rw [List.find?_eq_none]
    intro action member
    simpa using absent action (List.mem_reverse.mp member)
  rw [stored?, apply, List.reverse_append, List.find?_append, notFound]
  rfl

end BulkCluster

namespace Destination

variable {archive : Archive (ElasticsearchStore BulkCluster)} {documents : DocumentMap}

/-- If a document of a work item has no id, the delivery is lost and nothing is
sent. -/
theorem deliver_of_keyed?_eq_none (item : WorkItem) {marker : Option DataFileRecord}
    (unkeyed : MemoryStore.keyed? (batch documents marker) = none) :
    (toStore.deliver archive item documents marker).1 = archive ∧
      (toStore.deliver archive item documents marker).2.isLost = true := by
  rcases deliver_toStore archive item documents marker with ⟨nothing, _⟩ | ⟨_, sent, lost⟩
  · rw [batch_eq, nothing] at unkeyed
    cases unkeyed
  · have refused : sendBatch archive (batch documents marker) = (archive, .error .noId) := by
      rw [sendBatch, DocumentStore.upsert, ElasticsearchStore.instDocumentStore]
      simp only [ElasticsearchStore.upsert_of_keyed?_eq_none unkeyed]
      rfl
    rw [sent, lost, refused]
    exact ⟨rfl, rfl⟩

/-- The accepted actions of a work item are applied, and the delivery is lost
exactly if one is rejected. -/
theorem deliver_of_keyed? (isOpen : archive.store.settings.IsOpen) (item : WorkItem)
    {marker : Option DataFileRecord} (notEmpty : entries documents marker ≠ [])
    {keyed : List (String × Json)}
    (given : MemoryStore.keyed? (batch documents marker) = some keyed) :
    (toStore.deliver archive item documents marker).1.store =
        { archive.store with
          server := archive.store.server.apply (keyed.map archive.store.settings.bulkAction) } ∧
      (toStore.deliver archive item documents marker).2.isLost =
        archive.store.server.rejectsAny keyed.length := by
  rcases deliver_toStore archive item documents marker with ⟨nothing, _⟩ | ⟨_, sent, lost⟩
  · exact absurd nothing notEmpty
  · have batchNotEmpty : batch documents marker ≠ [] := by
      rw [batch_eq]
      simpa using notEmpty
    obtain ⟨applied, outcome⟩ := ElasticsearchStore.upsert_of_keyed? isOpen batchNotEmpty given
    have result : (sendBatch archive (batch documents marker)).2.isOk =
        (archive.store.upsert (batch documents marker)).2.isOk := by
      rw [sendBatch, DocumentStore.upsert, ElasticsearchStore.instDocumentStore]
      simp only
      cases (archive.store.upsert (batch documents marker)).2 <;> rfl
    rw [sent, lost, result, outcome, Bool.not_not]
    exact ⟨applied, rfl⟩

/-- Whether every document of a work item has an id. -/
def HaveIds (documents : DocumentMap) : Prop :=
  ∀ entry ∈ documents, entry.2.textField? "id" ≠ none

instance (documents : DocumentMap) : Decidable (HaveIds documents) :=
  inferInstanceAs (Decidable (∀ entry ∈ documents, entry.2.textField? "id" ≠ none))

theorem keyed?_batch (marker : DataFileRecord) (haveIds : HaveIds documents) :
    ∃ front, MemoryStore.keyed? (batch documents (some marker)) =
        some (front ++ [(marker.id, marker.toJson)]) ∧ front.length = documents.length ∧
      ∀ entry ∈ front, ∃ document ∈ documents, document.2.textField? "id" = some entry.1 := by
  have documentsKeyed : MemoryStore.keyed? (Keyed.values documents) ≠ none := by
    intro unkeyed
    obtain ⟨document, member, absent⟩ := MemoryStore.keyed?_eq_none_iff.mp unkeyed
    obtain ⟨entry, inMap, rfl⟩ := List.mem_map.mp member
    exact haveIds entry inMap absent
  obtain ⟨front, keyed⟩ := Option.ne_none_iff_exists'.mp documentsKeyed
  obtain ⟨same, carried⟩ := MemoryStore.carried_of_keyed? keyed
  refine ⟨front, ?_, ?_, ?_⟩
  · have whole : batch documents (some marker) =
        (front ++ [(marker.id, marker.toJson)]).map Prod.snd := by
      rw [List.map_append, same]
      rfl
    rw [whole]
    apply MemoryStore.keyed?_of_carried
    intro entry member
    rcases List.mem_append.mp member with inFront | last
    · exact carried entry inFront
    · cases List.mem_singleton.mp last
      exact marker.textField?_id_toJson
  · have lengths := congrArg List.length same
    rwa [List.length_map, Keyed.values, List.length_map] at lengths
  · intro entry member
    have held : entry.2 ∈ Keyed.values documents := same ▸ List.mem_map_of_mem member
    obtain ⟨document, inMap, equal⟩ := List.mem_map.mp held
    exact ⟨document, inMap, equal ▸ carried entry member⟩

theorem keyed?_batch_eq_none (marker : Option DataFileRecord) (lacking : ¬HaveIds documents) :
    MemoryStore.keyed? (batch documents marker) = none := by
  rw [MemoryStore.keyed?_eq_none_iff]
  simp only [HaveIds, not_forall, not_not] at lacking
  obtain ⟨entry, member, absent⟩ := lacking
  exact ⟨entry.2, List.mem_append_left _ (List.mem_map_of_mem member), absent⟩

/-- If the documents have ids, a work item is sent as an action for each of them and,
behind these, the action of its marker. -/
theorem exists_actions (isOpen : archive.store.settings.IsOpen) (item : WorkItem)
    (marker : DataFileRecord) (haveIds : HaveIds documents) :
    ∃ front : List BulkAction, front.length = documents.length ∧
      (∀ action ∈ front, ∃ document ∈ documents, document.2.textField? "id" = some action.id) ∧
      (toStore.deliver archive item documents (some marker)).1.store.server =
        archive.store.server.apply
          (front ++ [archive.store.settings.bulkAction (marker.id, marker.toJson)]) ∧
      (toStore.deliver archive item documents (some marker)).2.isLost =
        archive.store.server.rejectsAny (documents.length + 1) := by
  obtain ⟨front, keyed, sameLength, fromDocuments⟩ := keyed?_batch marker haveIds
  have notEmpty : entries documents (some marker) ≠ [] := by
    simp [entries]
  obtain ⟨applied, lost⟩ := deliver_of_keyed? isOpen item notEmpty keyed
  refine ⟨front.map archive.store.settings.bulkAction, ?_, ?_, ?_, ?_⟩
  · rw [List.length_map, sameLength]
  · intro action member
    obtain ⟨entry, inFront, rfl⟩ := List.mem_map.mp member
    exact fromDocuments entry inFront
  · rw [applied, List.map_append, List.map_singleton]
  · rw [lost, List.length_append, sameLength, List.length_singleton]

/-- A delivery with a marker is lost exactly if a document has no id or an action is
rejected. -/
theorem isLost_deliver_iff (isOpen : archive.store.settings.IsOpen) (item : WorkItem)
    (marker : DataFileRecord) :
    (toStore.deliver archive item documents (some marker)).2.isLost = true ↔
      ¬HaveIds documents ∨
        ∃ position ≤ documents.length, archive.store.server.accepts position = false := by
  by_cases haveIds : HaveIds documents
  · obtain ⟨_, _, _, _, lost⟩ := exists_actions isOpen item marker haveIds
    rw [lost, BulkCluster.rejectsAny_iff]
    simp only [Nat.lt_succ_iff, haveIds, not_true_eq_false, false_or]
  · have unkeyed := keyed?_batch_eq_none (some marker) haveIds
    exact iff_of_true (deliver_of_keyed?_eq_none item unkeyed).2 (.inl haveIds)

/-- If its own action is accepted, the marker is stored. -/
theorem stored?_deliver_of_accepts (isOpen : archive.store.settings.IsOpen) (item : WorkItem)
    (marker : DataFileRecord) (haveIds : HaveIds documents)
    (accepts : archive.store.server.accepts documents.length = true) :
    (toStore.deliver archive item documents (some marker)).1.store.server.stored?
      archive.store.settings.index marker.id = some marker.toJson.compact := by
  obtain ⟨front, sameLength, _, applied, _⟩ := exists_actions isOpen item marker haveIds
  rw [← sameLength] at accepts
  rw [applied]
  exact BulkCluster.stored?_apply_of_accepts accepts

/-- If its own action is rejected, or nothing is sent, no other action stores it. -/
theorem stored?_deliver_of_not_accepts (isOpen : archive.store.settings.IsOpen) (item : WorkItem)
    {marker : DataFileRecord}
    (apart : ∀ entry ∈ documents, entry.2.textField? "id" ≠ some marker.id)
    (refused : ¬(HaveIds documents ∧ archive.store.server.accepts documents.length = true)) :
    (toStore.deliver archive item documents (some marker)).1.store.server.stored?
        archive.store.settings.index marker.id =
      archive.store.server.stored? archive.store.settings.index marker.id := by
  by_cases haveIds : HaveIds documents
  · obtain ⟨front, sameLength, fromDocuments, applied, _⟩ :=
      exists_actions isOpen item marker haveIds
    have rejects : ¬archive.store.server.accepts front.length = true :=
      fun accepts => refused ⟨haveIds, sameLength ▸ accepts⟩
    rw [applied]
    -- what else was accepted are actions of documents, which have other ids
    apply BulkCluster.stored?_apply_of_not_mem
    intro action member same
    rw [BulkCluster.accepted_concat, if_neg rejects, List.append_nil] at member
    obtain ⟨document, inMap, carried⟩ :=
      fromDocuments action (BulkCluster.mem_of_mem_accepted member)
    exact apart document inMap (carried.trans (congrArg some same.2))
  · have unkeyed := keyed?_batch_eq_none (some marker) haveIds
    rw [(deliver_of_keyed?_eq_none item unkeyed).1]

/-- Whether a lost delivery of a work item leaves its marker unwritten. -/
def HoldsBackMarker (archive : Archive (ElasticsearchStore BulkCluster)) (item : WorkItem)
    (documents : DocumentMap) (marker : DataFileRecord) : Prop :=
  (toStore.deliver archive item documents (some marker)).2.isLost = true →
    (toStore.deliver archive item documents (some marker)).1.store.server.stored?
      archive.store.settings.index marker.id = none

/-- A lost delivery leaves the marker behind exactly if the action of the marker is
accepted and another one is rejected. -/
theorem holdsBackMarker_iff (isOpen : archive.store.settings.IsOpen) (item : WorkItem)
    {marker : DataFileRecord}
    (apart : ∀ entry ∈ documents, entry.2.textField? "id" ≠ some marker.id)
    (fresh : archive.store.server.stored? archive.store.settings.index marker.id = none) :
    HoldsBackMarker archive item documents marker ↔
      ¬(HaveIds documents ∧ archive.store.server.accepts documents.length = true ∧
        ∃ position < documents.length, archive.store.server.accepts position = false) := by
  rw [HoldsBackMarker, isLost_deliver_iff isOpen item marker]
  by_cases accepted : HaveIds documents ∧ archive.store.server.accepts documents.length = true
  · obtain ⟨haveIds, accepts⟩ := accepted
    rw [stored?_deliver_of_accepts isOpen item marker haveIds accepts]
    constructor
    · rintro holds ⟨_, _, position, before, rejected⟩
      cases holds (.inr ⟨position, Nat.le_of_lt before, rejected⟩)
    · rintro others (lacking | ⟨position, within, rejected⟩)
      · exact absurd haveIds lacking
      · have before : position < documents.length := by
          apply Nat.lt_of_le_of_ne within
          rintro rfl
          exact Bool.false_ne_true (rejected.symm.trans accepts)
        exact absurd ⟨haveIds, accepts, position, before, rejected⟩ others
  · rw [stored?_deliver_of_not_accepts isOpen item apart accepted]
    exact iff_of_true (fun _ => fresh) fun both => accepted ⟨both.1, both.2.1⟩

/-- A delivery with a marker is lost exactly if a document has no id or an action is
rejected.  The marker is stored or not as its own action is accepted or not, so that
a lost delivery leaves it behind exactly if its action is accepted beside a rejected
one. -/
theorem marker_follows_own_action (isOpen : archive.store.settings.IsOpen) (item : WorkItem)
    (marker : DataFileRecord)
    (apart : ∀ entry ∈ documents, entry.2.textField? "id" ≠ some marker.id) :
    ((toStore.deliver archive item documents (some marker)).2.isLost = true ↔
        ¬HaveIds documents ∨
          ∃ position ≤ documents.length, archive.store.server.accepts position = false) ∧
      (toStore.deliver archive item documents (some marker)).1.store.server.stored?
          archive.store.settings.index marker.id =
        (if HaveIds documents ∧ archive.store.server.accepts documents.length = true then
          some marker.toJson.compact
        else archive.store.server.stored? archive.store.settings.index marker.id) ∧
      (archive.store.server.stored? archive.store.settings.index marker.id = none →
        (HoldsBackMarker archive item documents marker ↔
          ¬(HaveIds documents ∧ archive.store.server.accepts documents.length = true ∧
            ∃ position < documents.length, archive.store.server.accepts position = false))) := by
  refine ⟨isLost_deliver_iff isOpen item marker, ?_, holdsBackMarker_iff isOpen item apart⟩
  split
  · next accepted => exact stored?_deliver_of_accepts isOpen item marker accepted.1 accepted.2
  · next refused => exact stored?_deliver_of_not_accepts isOpen item apart refused

/-- A cluster that rejects the first action of every request. -/
def choosyArchive : Archive (ElasticsearchStore BulkCluster) where
  store :=
    { settings := { url := "http://es:9200", index := "weather" }
      pageLimit := 1
      server := { accepts := fun position => decide (position ≠ 0) } }
  files := []
  now := 0

def oneDocument : DocumentMap :=
  [("X", .object [("id", .string "X")])]

/-- The marker of a file. -/
def itsMarker : DataFileRecord :=
  ⟨"DF::rows:obs:a.json", DataFileRecord.type, "", "rows", "in/a.json", 5, "obs"⟩

theorem isOpen_choosyArchive : choosyArchive.store.settings.IsOpen :=
  ⟨_, rfl, by decide, by decide⟩

theorem marker_follows_own_action_choosy :
    (toStore.deliver choosyArchive default oneDocument (some itsMarker)).2.isLost = true ∧
      (toStore.deliver choosyArchive default oneDocument (some itsMarker)).1.store.server.stored?
        "weather" itsMarker.id = some itsMarker.toJson.compact ∧
      ¬HoldsBackMarker choosyArchive default oneDocument itsMarker := by
  obtain ⟨lost, stored, holdsBack⟩ :=
    marker_follows_own_action isOpen_choosyArchive default itsMarker
      (show ∀ entry ∈ oneDocument, entry.2.textField? "id" ≠ some itsMarker.id by decide)
  refine ⟨lost.mpr (.inr ⟨0, by decide, rfl⟩), stored.trans (if_pos ⟨by decide, rfl⟩), ?_⟩
  rw [holdsBack rfl, not_not]
  exact ⟨by decide, rfl, 0, by decide, rfl⟩

/-- Not every lost delivery leaves the marker unwritten, even where nothing was stored
before. -/
theorem not_holdsBackMarker :
    ¬∀ (archive : Archive (ElasticsearchStore BulkCluster)) (item : WorkItem)
      (documents : DocumentMap) (marker : DataFileRecord), archive.store.settings.IsOpen →
      archive.store.server.applied = [] → documents ≠ [] →
      HoldsBackMarker archive item documents marker := by
  intro holdBack
  have haveIds : HaveIds oneDocument := by decide
  have lost : (toStore.deliver choosyArchive default oneDocument (some itsMarker)).2.isLost =
      true := (isLost_deliver_iff isOpen_choosyArchive default itsMarker).mpr
    (.inr ⟨0, by decide, rfl⟩)
  have stored := stored?_deliver_of_accepts isOpen_choosyArchive default itsMarker haveIds rfl
  have unwritten := holdBack choosyArchive default oneDocument itsMarker isOpen_choosyArchive rfl
    (by decide) lost
  rw [stored] at unwritten
  cases unwritten

end Destination

end DocumentIngest
