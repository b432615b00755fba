import DocumentIngest.Job
import DocumentIngest.Path

/-!
# Work items and the records they leave

A work item is a file or a stored record, together with the ingest document that
says what to do with it.  A file leaves a marker behind, by which it is known
the next time; a whole run leaves one load-job record.
-/

namespace DocumentIngest

/-- Built documents by id. -/
abbrev DocumentMap := Keyed Json

/-- Where the data of a work item is. -/
inductive WorkSource where
  /-- A file; the modification time is in milliseconds since the epoch. -/
  | path (path : String) (mtime : Int)
  | identifier (id : String)
deriving DecidableEq, Repr, Inhabited

/-- One unit of work. -/
structure WorkItem where
  source : WorkSource
  documentId : String
deriving DecidableEq, Repr, Inhabited

/-- The marker of a file that was processed. -/
structure DataFileRecord where
  id : String
  recordType : String
  subset : String
  builder : String
  url : String
  mtime : Int
  ingestDocument : String
deriving DecidableEq, Repr, Inhabited

/-- The closing record of a run. -/
structure LoadJobRecord where
  id : String
  recordType : String
  subset : String
  jobId : String
  lineage : String
  ingestDocuments : List String
  runStart : Int
  runEnd : Int
  itemsTotal : Nat
  itemsOk : Nat
  itemsFailed : Nat
  itemsUnacknowledged : Nat
  documentsWritten : Nat
  partialDispatches : Nat
  workersStarted : Nat
  workersFailed : Nat
deriving DecidableEq, Repr, Inhabited

namespace DataFileRecord

/-- The type that tells markers from other documents. -/
def type : String := "DF"

/-- The marker of a file under an ingest document. -/
def make (path : String) (mtime : Int) (document : IngestDocument) : DataFileRecord :=
  { id := ":".intercalate
      [type, document.subset, document.builder.name, document.id, Path.fileName path]
    recordType := type
    subset := document.subset
    builder := document.builder.name
    url := path
    mtime
    ingestDocument := document.id }

def toJson (record : DataFileRecord) : Json :=
  .ofFields
    [("id", .string record.id), ("type", .string record.recordType),
      ("subset", .string record.subset), ("builder_type", .string record.builder),
      ("url", .string record.url), ("mtime", .ofInt record.mtime),
      ("ingest_document", .string record.ingestDocument)]

/-- Reads a marker from a stored document. -/
def ofJson : Shape.Reader DataFileRecord :=
  Shape.record .strict
    [Shape.required "id" Shape.text fun record id => { record with id },
      Shape.required "type" Shape.text fun record recordType => { record with recordType },
      Shape.required "subset" Shape.text fun record subset => { record with subset },
      Shape.required "builder_type" Shape.text fun record builder => { record with builder },
      Shape.required "url" Shape.text fun record url => { record with url },
      Shape.required "mtime" Shape.integer fun record mtime => { record with mtime },
      Shape.required "ingest_document" Shape.text
        fun record ingestDocument => { record with ingestDocument }]
    default

end DataFileRecord

namespace LoadJobRecord

/-- The type that tells load-job records from other documents. -/
def type : String := "LJ"

/-- The id of the record of a run that starts at the given second. -/
def idFor (subset jobId : String) (runStart : Int) : String :=
  ":".intercalate [type, subset, jobId, toString runStart]

def toJson (record : LoadJobRecord) : Json :=
  .ofFields
    [("id", .string record.id), ("type", .string record.recordType),
      ("subset", .string record.subset), ("job_id", .string record.jobId),
      ("lineage", .string record.lineage),
      ("ingest_documents", .array (record.ingestDocuments.map .string)),
      ("run_start", .ofInt record.runStart), ("run_end", .ofInt record.runEnd),
      ("items_total", .ofNat record.itemsTotal), ("items_ok", .ofNat record.itemsOk),
      ("items_failed", .ofNat record.itemsFailed),
      ("items_unacknowledged", .ofNat record.itemsUnacknowledged),
      ("documents_written", .ofNat record.documentsWritten),
      ("partial_dispatches", .ofNat record.partialDispatches),
      ("workers_started", .ofNat record.workersStarted),
      ("workers_failed", .ofNat record.workersFailed)]

/-- Reads a load-job record from a JSON document. -/
def ofJson : Shape.Reader LoadJobRecord :=
  Shape.record .strict
    [Shape.required "id" Shape.text fun record id => { record with id },
      Shape.required "type" Shape.text fun record recordType => { record with recordType },
      Shape.required "subset" Shape.text fun record subset => { record with subset },
      Shape.required "job_id" Shape.text fun record jobId => { record with jobId },
      Shape.required "lineage" Shape.text fun record lineage => { record with lineage },
      Shape.required "ingest_documents" (Shape.list Shape.text)
        fun record ingestDocuments => { record with ingestDocuments },
      Shape.required "run_start" Shape.integer fun record runStart => { record with runStart },
      Shape.required "run_end" Shape.integer fun record runEnd => { record with runEnd },
      Shape.required "items_total" Shape.natural
        fun record itemsTotal => { record with itemsTotal },
      Shape.required "items_ok" Shape.natural fun record itemsOk => { record with itemsOk },
      Shape.required "items_failed" Shape.natural
        fun record itemsFailed => { record with itemsFailed },
      Shape.required "items_unacknowledged" Shape.natural
        fun record itemsUnacknowledged => { record with itemsUnacknowledged },
      Shape.required "documents_written" Shape.natural
        fun record documentsWritten => { record with documentsWritten },
      Shape.required "partial_dispatches" Shape.natural
        fun record partialDispatches => { record with partialDispatches },
      Shape.required "workers_started" Shape.natural
        fun record workersStarted => { record with workersStarted },
      Shape.required "workers_failed" Shape.natural
        fun record workersFailed => { record with workersFailed }]
    default

end LoadJobRecord

namespace WorkSource

def toJson : WorkSource → Json
  | .path file mtime =>
      .ofFields [("kind", .string "path"), ("path", .string file), ("mtime", .ofInt mtime)]
  | .identifier id => .ofFields [("kind", .string "identifier"), ("id", .string id)]

/-- Reads the fields of a source of a kind. -/
def ofKind (kind fields : Json) : Except ShapeFault WorkSource :=
  match kind with
  | .string "path" =>
      (Shape.record .strict
        [Shape.required "path" Shape.text fun source file => (file, source.2),
          Shape.required "mtime" Shape.integer fun source mtime => (source.1, mtime)]
        ("", (0 : Int)) fields).map fun source => WorkSource.path source.1 source.2
  | .string "identifier" =>
      (Shape.record .strict [Shape.required "id" Shape.text fun _ id => id] "" fields).map
        WorkSource.identifier
  | .string _ => .error .unknownVariant
  | _ => .error .wrongType

/-- Reads a source.  Its kind says which fields it has; an array starts with it. -/
def ofJson : Shape.Reader WorkSource
  | .object fields =>
      match Keyed.lookup fields "kind" with
      | none => .error (.missingField "kind")
      | some kind => ofKind kind (.object fields)
  | .array [] => .error (.missingField "kind")
  | .array (kind :: fields) => ofKind kind (.array fields)
  | _ => .error .wrongType

end WorkSource

namespace WorkItem

/-- A file as work of an ingest document. -/
def ofPath (path : String) (mtime : Int) (documentId : String) : WorkItem :=
  ⟨.path path mtime, documentId⟩

/-- A stored record as work of an ingest document. -/
def ofIdentifier (id documentId : String) : WorkItem :=
  ⟨.identifier id, documentId⟩

/-- What names the item in messages. -/
def label (item : WorkItem) : String :=
  match item.source with
  | .path path _ => path
  | .identifier id => id

def path? (item : WorkItem) : Option String :=
  match item.source with
  | .path path _ => some path
  | .identifier _ => none

/-- The parameters that handlers see: those of the ingest document, and where the
item comes from. -/
def parameterBag (item : WorkItem) (document : IngestDocument) : Json.Fields :=
  let bag := Keyed.insert document.parameters "subset" (.string document.subset)
  let bag := Keyed.insert bag "ingest_document" (.string document.id)
  let bag := Keyed.insert bag "builder_type" (.string document.builder.name)
  match item.source with
  | .path path mtime =>
      let bag := Keyed.insert bag "file_path" (.string path)
      let bag := Keyed.insert bag "file_name" (.string (Path.fileName path))
      Keyed.insert bag "mtime" (.ofInt mtime)
  | .identifier id => Keyed.insert bag "record_id" (.string id)

/-- The marker that a file leaves; a stored record leaves none. -/
def marker (item : WorkItem) (document : IngestDocument) : Option DataFileRecord :=
  match item.source with
  | .path path mtime => some (.make path mtime document)
  | .identifier _ => none

def toJson (item : WorkItem) : Json :=
  .ofFields
    [("source", item.source.toJson), ("ingest_document_id", .string item.documentId)]

/-- Reads a work item from its JSON form. -/
def ofJson : Shape.Reader WorkItem :=
  Shape.record .strict
    [Shape.required "source" WorkSource.ofJson fun item source => { item with source },
      Shape.required "ingest_document_id" Shape.text
        fun item documentId => { item with documentId }]
    default

/-- Stored records as work, in the order they are listed. -/
def ofIdentifiers (ids : List String) (documentId : String) : List WorkItem :=
  ids.map fun id => ofIdentifier id documentId

end WorkItem

end DocumentIngest
