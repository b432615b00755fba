import DocumentIngest.Store

/-!
# The store in memory

A map from ids to documents.  It can be told to misbehave: to refuse the next
connections, and to let the next writes time out with nothing written.
-/

namespace DocumentIngest

/-- A store in memory and the faults it is armed with. -/
structure MemoryStore where
  documents : DocumentMap := []
  /-- How many of the next connections are refused. -/
  refusals : Nat := 0
  /-- How many of the next writes time out. -/
  timeouts : Nat := 0
deriving DecidableEq, Repr, Inhabited

namespace MemoryStore

/-- One attempt to connect; it uses up a refusal. -/
def connect (store : MemoryStore) : MemoryStore × Except StoreError Unit :=
  match store.refusals with
  | 0 => (store, .ok ())
  | refusals + 1 =>
      ({ store with refusals },
        .error (.failure "in-memory store refused the connection (Connection refused)"))

/-- Documents with their ids, if each has one. -/
def keyed? (batch : List Json) : Option (List (String × Json)) :=
  batch.mapM fun document => (document.textField? "id").map fun id => (id, document)

/-- Puts documents over a map, one after another. -/
def overlay (documents : DocumentMap) (batch : List (String × Json)) : DocumentMap :=
  batch.foldl (fun documents entry => Keyed.insert documents entry.1 entry.2) documents

/-- Writes a batch, all of it or nothing. -/
def upsert (store : MemoryStore) (batch : List Json) : MemoryStore × Except StoreError Nat :=
  match store.timeouts with
  | timeouts + 1 => ({ store with timeouts }, .error (.timeout "simulated write timeout"))
  | 0 =>
      match keyed? batch with
      | none => (store, .error .noId)
      | some entries =>
          ({ store with documents := overlay store.documents entries }, .ok entries.length)

/-- The document of an id. -/
def fetch (store : MemoryStore) (id : String) : Except StoreError Json :=
  match Keyed.lookup store.documents id with
  | some document => .ok document
  | none => .error (.notFound id)

/-- A marker of an ingest document, if a document is one. -/
def markerOf? (documentId : String) (document : Json) : Option DataFileRecord :=
  if document.textField? "type" = some DataFileRecord.type ∧
      document.textField? "ingest_document" = some documentId then
    (DataFileRecord.ofJson document).toOption
  else none

/-- The markers of an ingest document, in the order of their keys. -/
def markers (store : MemoryStore) (documentId : String) : List DataFileRecord :=
  (Keyed.values store.documents).filterMap (markerOf? documentId)

instance : DocumentStore MemoryStore where
  connect := connect
  upsert := upsert
  fetch store id := (store, store.fetch id)
  markers store documentId := (store, .ok (store.markers documentId))

end MemoryStore

end DocumentIngest
