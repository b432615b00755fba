import DocumentIngest.Job
import DocumentIngest.Layer
import DocumentIngest.Settings
import DocumentIngest.Store

/-!
# Loading jobs

A job stands in a file, or in the store.  In the store a job is a document that
lists the ids of ingest documents, each of them a document of its own.
-/

namespace DocumentIngest

namespace Job

/-- How a job file is written; its name tells. -/
def formatOf (path : String) : Layer.Format :=
  match Path.extension? path with
  | none => .toml
  | some text => if text.toList.map Char.toLower = "json".toList then .json else .toml

/-- Reads a job from the fields of a file. -/
def ofFields (fields : Json.Fields) : Except SettingsFault Job :=
  (reader .lenient (.object fields)).mapError .shape

/-- Loads a job from a file. -/
def ofFile (files : FileTree) (path : String) : Except Failure Job :=
  if files.exists? path then
    attempting ("💀 Job spec '" ++ path ++ "' did not parse")
      (match (Layer.ofFile (formatOf path) files path).bind ofFields with
      | .error fault => .error (.of (.settings fault))
      | .ok job => .ok job.normalize)
  else
    .error (.plain
      ("💀 Job spec '" ++ path ++ "' does not exist. We checked. Twice. " ++
        "Relative paths are relative to wherever you launched from, " ++
        "which is rarely where you think."))

/-- A job as it is stored. -/
structure Stored where
  subset : String := ""
  documentIds : List String := []

namespace Stored

/-- Reads a stored job. -/
def ofJson : Shape.Reader Stored :=
  Shape.record .strict
    [Shape.defaulted "subset" Shape.text fun stored subset => { stored with subset },
      Shape.required "ingest_document_ids" (Shape.list Shape.text)
        fun stored documentIds => { stored with documentIds }]
    {}

end Stored

/-- How the keys of jobs in the store begin. -/
def keyMark : String := "JOB:"

/-- The key that a job is stored under. -/
def storeKey (id : String) : String :=
  if keyMark.toList.isPrefixOf id.toList then id else keyMark ++ id

variable {σ : Type} [DocumentStore σ]

/-- Reads a stored document; `attempt` tells what it was fetched for, `reading`
what it was read as. -/
def fetchAs {α : Type} (reader : Shape.Reader α) (attempt reading : String) (store : σ)
    (id : String) : σ × Except Failure α :=
  match DocumentStore.fetch store id with
  | (store, .error fault) => (store, .error (.during attempt (.of (.store fault))))
  | (store, .ok document) =>
      (store, attempting reading ((reader document).mapError fun fault => .of (.shape fault)))

/-- Fetches the ingest documents of a job one after another. -/
def fetchDocuments (key : String) (store : σ) :
    List String → σ × Except Failure (List IngestDocument)
  | [] => (store, .ok [])
  | id :: rest =>
      match fetchAs IngestDocument.ofJson
          ("💀 Job '" ++ key ++ "' references ingest document '" ++ id ++ "'")
          ("💀 Ingest document '" ++ id ++ "' did not parse") store id with
      | (store, .error failure) => (store, .error failure)
      | (store, .ok document) =>
          match fetchDocuments key store rest with
          | (store, documents) => (store, documents.map (document :: ·))

/-- Loads a job from the store. -/
def ofStore (store : σ) (id : String) : σ × Except Failure Job :=
  let key := storeKey id
  match fetchAs Stored.ofJson ("💀 Could not fetch job '" ++ key ++ "' from the store")
      ("💀 Job '" ++ key ++ "' is not shaped like a job") store key with
  | (store, .error failure) => (store, .error failure)
  | (store, .ok stored) =>
      match fetchDocuments key store stored.documentIds with
      | (store, documents) =>
          (store, documents.map fun documents => normalize ⟨id, stored.subset, documents⟩)

/-- Loads the job that the settings name. -/
def load (source : JobSource) (files : FileTree) (store : σ) : σ × Except Failure Job :=
  match source.specFile, source.id with
  | some path, _ => (store, ofFile files path)
  | none, some id => ofStore store id
  | none, none => (store, .error (.of (.setup (.missingField "job.id or job.spec_file"))))

end Job

end DocumentIngest
