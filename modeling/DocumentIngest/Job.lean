import DocumentIngest.Json.Shape
import DocumentIngest.Template.Handler

/-!
# Jobs and ingest documents

A job lists ingest documents.  Each names a builder, a template document and
parameters, and says where its work comes from: files of a directory, or
records that are already stored.
-/

namespace DocumentIngest

/-- How rows become documents. -/
inductive BuilderType where
  /-- One document for each row, or for each element of its id list. -/
  | rowPerDocument
  /-- Rows with one id make up one document. -/
  | nestedRows
deriving DecidableEq, Repr, Inhabited

namespace BuilderType

def name : BuilderType → String
  | rowPerDocument => "row_per_document"
  | nestedRows => "nested_rows"

/-- The handlers that templates of a builder may call. -/
def handlers : BuilderType → List Handler
  | rowPerDocument => Handler.common ++ [.column, .levels]
  | nestedRows => Handler.common ++ [.validEpoch]

/-- The builders by name. -/
def byName : List (String × BuilderType) :=
  [(rowPerDocument.name, rowPerDocument), (nestedRows.name, nestedRows)]

end BuilderType

/-- One kind of work: where it comes from and how it is shaped. -/
structure IngestDocument where
  id : String
  builder : BuilderType
  subset : String
  template : Json
  parameters : Json.Fields
  /-- Dotted template paths whose composites tolerate missing pieces. -/
  optionalFields : List String
  /-- Stored records that are the work, if there are any. -/
  recordIds : List String
  inputDirectory : Option String
  filePattern : Option String
  fileMask : Option String
deriving DecidableEq, Repr

namespace IngestDocument

/-- The document that reading starts from. -/
def blank : IngestDocument :=
  ⟨"", .rowPerDocument, "", .null, [], [], [], none, none, none⟩

/-- The fields of an ingest document, in order. -/
def fields (mode : Shape.Mode) : List (Shape.Field IngestDocument) :=
  [Shape.required "id" Shape.text fun document id => { document with id },
    Shape.required "builder_type" (Shape.variant mode BuilderType.byName)
      fun document builder => { document with builder },
    Shape.defaulted "subset" Shape.text fun document subset => { document with subset },
    Shape.required "template" (Shape.any mode) fun document template => { document with template },
    Shape.defaulted "params" (Shape.fields mode)
      fun document parameters => { document with parameters },
    Shape.defaulted "optional_fields" (Shape.list Shape.text)
      fun document optionalFields => { document with optionalFields },
    Shape.defaulted "record_ids" (Shape.list Shape.text)
      fun document recordIds => { document with recordIds },
    Shape.defaulted "input_dir" (Shape.optional Shape.text)
      fun document inputDirectory => { document with inputDirectory },
    Shape.defaulted "file_pattern" (Shape.optional Shape.text)
      fun document filePattern => { document with filePattern },
    Shape.defaulted "file_mask" (Shape.optional Shape.text)
      fun document fileMask => { document with fileMask }]

/-- Reads an ingest document. -/
def reader (mode : Shape.Mode) : Shape.Reader IngestDocument :=
  Shape.record mode (fields mode) blank

/-- Reads an ingest document from a JSON document. -/
def ofJson : Shape.Reader IngestDocument :=
  reader .strict

/-- An ingest document with every field written out. -/
def toJson (document : IngestDocument) : Json :=
  .ofFields
    [("id", .string document.id),
      ("builder_type", .string document.builder.name),
      ("subset", .string document.subset),
      ("template", document.template),
      ("params", .object document.parameters),
      ("optional_fields", .array (document.optionalFields.map .string)),
      ("record_ids", .array (document.recordIds.map .string)),
      ("input_dir", .ofOption document.inputDirectory),
      ("file_pattern", .ofOption document.filePattern),
      ("file_mask", .ofOption document.fileMask)]

end IngestDocument

/-- What a run needs to know about what to ingest. -/
structure Job where
  id : String
  subset : String
  documents : List IngestDocument
deriving DecidableEq, Repr

namespace Job

/-- The fields of a job, in order. -/
def fields (mode : Shape.Mode) : List (Shape.Field Job) :=
  [Shape.required "id" Shape.text fun job id => { job with id },
    Shape.defaulted "subset" Shape.text fun job subset => { job with subset },
    Shape.required "ingest_documents" (Shape.list (IngestDocument.reader mode))
      fun job documents => { job with documents }]

/-- Reads a job. -/
def reader (mode : Shape.Mode) : Shape.Reader Job :=
  Shape.record mode (fields mode) ⟨"", "", []⟩

/-- Reads a job from a JSON document. -/
def ofJson : Shape.Reader Job :=
  reader .strict

/-- A job with every field written out. -/
def toJson (job : Job) : Json :=
  .ofFields
    [("id", .string job.id),
      ("subset", .string job.subset),
      ("ingest_documents", .array (job.documents.map IngestDocument.toJson))]

/-- The first ingest document with an id. -/
def document? (job : Job) (id : String) : Option IngestDocument :=
  job.documents.find? fun document => document.id == id

/-- Ingest documents without a subset take that of the job. -/
def normalize (job : Job) : Job :=
  { job with
    documents := job.documents.map fun document =>
      if document.subset.isEmpty then { document with subset := job.subset } else document }

end Job

end DocumentIngest
