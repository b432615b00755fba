import DocumentIngest.Failure
import DocumentIngest.WorkItem

/-!
# Document stores

A store keeps documents under their ids.  What a run asks of one is little: to be
reached, to take documents, to give one back, and to tell which files are known.
A store is a value; every call gives the store as it is afterwards.
-/

namespace DocumentIngest

/-- A store of documents. -/
class DocumentStore (σ : Type) where
  /-- One attempt to reach the store. -/
  connect : σ → σ × Except StoreError Unit
  /-- Puts documents under their ids and tells how many. -/
  upsert : σ → List Json → σ × Except StoreError Nat
  /-- The document of an id. -/
  fetch : σ → String → σ × Except StoreError Json
  /-- The markers of an ingest document. -/
  markers : σ → String → σ × Except StoreError (List DataFileRecord)

namespace DocumentStore

variable {σ : Type} [DocumentStore σ]

/-- Tries to reach a store, and again as often as `retries` says while it cannot
be reached.  The last error counts. -/
def connectWithin (retries : Nat) (store : σ) : σ × Except StoreError Unit :=
  match retries, connect store with
  | _, (store, .ok _) => (store, .ok ())
  | 0, (store, .error fault) => (store, .error fault)
  | retries + 1, (store, .error _) => connectWithin retries store

end DocumentStore

namespace StoreError

/-- A document has no id to be stored under. -/
def noId : StoreError :=
  failure "document has no string 'id' field"

end StoreError

end DocumentIngest
