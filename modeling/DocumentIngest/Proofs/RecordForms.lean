import DocumentIngest.Proofs.Markers
import DocumentIngest.Proofs.RecordLayouts

/-!
# Stored records read back

Work items, markers, the records of runs and jobs are read by the names that they are
written under, and each part by a reader that takes its own form for it.  So whatever was
written reads back as the same value, and a job or an ingest document does so even if
fields at their defaults were never written.
-/

namespace DocumentIngest

namespace Shape

theorem integer_ofInt {value : Int} (small : value < 2 ^ 63) :
    integer (.ofInt value) = .ok value :=
  if_pos small

theorem natural_ofNat (value : Nat) : natural (.ofNat value) = .ok value := by
  simp [natural, Json.ofNat]

theorem optional_text_ofOption (content : Option String) :
    optional text (.ofOption content) = .ok content := by
  cases content <;> rfl

theorem list_array {α : Type} {reader : Reader α} {forms : List Json} {values : List α}
    (read : List.Forall₂ (fun form value => reader form = .ok value) forms values) :
    list reader (.array forms) = .ok values := by
  rw [list]
  induction read with
  | nil => rfl
  | cons first _ ih =>
      rw [List.mapM_cons, first, ih]
      rfl

theorem list_text_map (texts : List String) :
    list text (.array (texts.map .string)) = .ok texts := by
  apply list_array
  rw [List.forall₂_map_left_iff, List.forall₂_same]
  exact fun _ _ => rfl

theorem variant_byName (mode : Mode) (builder : BuilderType) :
    variant mode BuilderType.byName (.string builder.name) = .ok builder := by
  cases builder <;> rfl

end Shape

open Shape

/-- The columns of a load-job record. -/
def LoadJobRecord.layout : Layout LoadJobRecord where
  columns :=
    [.mk "id" true text (·.id) fun record id => { record with id },
      .mk "type" true text (·.recordType) fun record recordType => { record with recordType },
      .mk "subset" true text (·.subset) fun record subset => { record with subset },
      .mk "job_id" true text (·.jobId) fun record jobId => { record with jobId },
      .mk "lineage" true text (·.lineage) fun record lineage => { record with lineage },
      .mk "ingest_documents" true (list text) (·.ingestDocuments)
        fun record ingestDocuments => { record with ingestDocuments },
      .mk "run_start" true integer (·.runStart) fun record runStart => { record with runStart },
      .mk "run_end" true integer (·.runEnd) fun record runEnd => { record with runEnd },
      .mk "items_total" true natural (·.itemsTotal)
        fun record itemsTotal => { record with itemsTotal },
      .mk "items_ok" true natural (·.itemsOk) fun record itemsOk => { record with itemsOk },
      .mk "items_failed" true natural (·.itemsFailed)
        fun record itemsFailed => { record with itemsFailed },
      .mk "items_unacknowledged" true natural (·.itemsUnacknowledged)
        fun record itemsUnacknowledged => { record with itemsUnacknowledged },
      .mk "documents_written" true natural (·.documentsWritten)
        fun record documentsWritten => { record with documentsWritten },
      .mk "partial_dispatches" true natural (·.partialDispatches)
        fun record partialDispatches => { record with partialDispatches },
      .mk "workers_started" true natural (·.workersStarted)
        fun record workersStarted => { record with workersStarted },
      .mk "workers_failed" true natural (·.workersFailed)
        fun record workersFailed => { record with workersFailed }]
  apart := by simp [Column.apart_iff]
  whole := by
    rintro ⟨⟩ ⟨⟩ same
    simpa using same

/-- The record of a run within 64 bits of seconds reads back as itself. -/
theorem LoadJobRecord.ofJson_toJson {record : LoadJobRecord} (startFits : record.runStart < 2 ^ 63)
    (endFits : record.runEnd < 2 ^ 63) : ofJson record.toJson = .ok record := by
  rw [toJson]
  refine layout.reads_ofFields (by simp) ?_ .strict
  simp [layout, text, list_text_map, natural_ofNat, integer_ofInt startFits,
    integer_ofInt endFits]

/-- The columns of a work item. -/
def WorkItem.layout : Layout WorkItem where
  columns :=
    [.mk "source" true WorkSource.ofJson (·.source) fun item source => { item with source },
      .mk "ingest_document_id" true text (·.documentId)
        fun item documentId => { item with documentId }]
  apart := by simp [Column.apart_iff]
  whole := by
    rintro ⟨⟩ ⟨⟩ same
    simpa using same

/-- The columns of a file as a source. -/
def WorkSource.pathLayout : Layout (String × Int) where
  columns :=
    [.mk "path" true text Prod.fst fun source file => (file, source.2),
      .mk "mtime" true integer Prod.snd fun source mtime => (source.1, mtime)]
  apart := by simp [Column.apart_iff]
  whole := by
    rintro ⟨⟩ ⟨⟩ same
    simpa using same

/-- The column of a stored record as a source. -/
def WorkSource.identifierLayout : Layout String where
  columns := [.mk "id" true text (fun id => id) fun _ id => id]
  apart := by simp
  whole := by
    intro first second same
    simpa using same

theorem WorkSource.record_path (path : String) {mtime : Int} (small : mtime < 2 ^ 63) :
    Shape.record .lenient pathLayout.fields ("", 0) (toJson (.path path mtime)) =
      .ok (path, mtime) := by
  refine pathLayout.reads_ofFields (by simp) ?_ .lenient
  simp [pathLayout, text, integer_ofInt small]

theorem WorkSource.record_identifier (id : String) :
    Shape.record .lenient identifierLayout.fields "" (toJson (.identifier id)) = .ok id := by
  refine identifierLayout.reads_ofFields (by simp) ?_ .lenient
  simp [identifierLayout, text]

/-- The kind of a source says which of its forms to read. -/
theorem WorkSource.ofJson_toJson {source : WorkSource}
    (bounded : ∀ path mtime, source = .path path mtime → mtime < 2 ^ 63) :
    ofJson source.toJson = .ok source := by
  cases source with
  | path path mtime =>
      have kind : Keyed.lookup (Keyed.ofPairs [("kind", Json.string "path"),
          ("path", .string path), ("mtime", .ofInt mtime)]) "kind" = some (.string "path") :=
        Keyed.lookup_ofPairs_of_mem (by simp) (by simp)
      rw [toJson, Json.ofFields, ofJson, kind]
      exact congrArg (Except.map fun source => WorkSource.path source.1 source.2)
        (record_path path (bounded path mtime rfl))
  | identifier id =>
      have kind : Keyed.lookup (Keyed.ofPairs [("kind", Json.string "identifier"),
          ("id", .string id)]) "kind" = some (.string "identifier") :=
        Keyed.lookup_ofPairs_of_mem (by simp) (by simp)
      rw [toJson, Json.ofFields, ofJson, kind]
      exact congrArg (Except.map WorkSource.identifier) (record_identifier id)

/-- Work of a file whose time is within 64 bits, or of a stored record, reads back. -/
theorem WorkItem.ofJson_toJson {item : WorkItem}
    (bounded : ∀ path mtime, item.source = .path path mtime → mtime < 2 ^ 63) :
    ofJson item.toJson = .ok item := by
  rw [toJson]
  refine layout.reads_ofFields (by simp) ?_ .strict
  simp [layout, text, WorkSource.ofJson_toJson bounded]

/-- The columns of an ingest document. -/
def IngestDocument.layout (mode : Mode) : Layout IngestDocument where
  columns :=
    [.mk "id" true text (·.id) fun document id => { document with id },
      .mk "builder_type" true (variant mode BuilderType.byName) (·.builder)
        fun document builder => { document with builder },
      .mk "subset" false text (·.subset) fun document subset => { document with subset },
      .mk "template" true (any mode) (·.template)
        fun document template => { document with template },
      .mk "params" false (Shape.fields mode) (·.parameters)
        fun document parameters => { document with parameters },
      .mk "optional_fields" false (list text) (·.optionalFields)
        fun document optionalFields => { document with optionalFields },
      .mk "record_ids" false (list text) (·.recordIds)
        fun document recordIds => { document with recordIds },
      .mk "input_dir" false (optional text) (·.inputDirectory)
        fun document inputDirectory => { document with inputDirectory },
      .mk "file_pattern" false (optional text) (·.filePattern)
        fun document filePattern => { document with filePattern },
      .mk "file_mask" false (optional text) (·.fileMask)
        fun document fileMask => { document with fileMask }]
  apart := by simp [Column.apart_iff]
  whole := by
    rintro ⟨⟩ ⟨⟩ same
    simpa using same

/-- The fields at their defaults, which the form of an ingest document may do without. -/
def IngestDocument.MayLack (document : IngestDocument) : String → Prop
  | "subset" => document.subset = ""
  | "params" => document.parameters = []
  | "optional_fields" => document.optionalFields = []
  | "record_ids" => document.recordIds = []
  | "input_dir" => document.inputDirectory = none
  | "file_pattern" => document.filePattern = none
  | "file_mask" => document.fileMask = none
  | _ => False

/-- Whether a value is the form of an ingest document, without some of the fields that are
at their defaults. -/
def IngestDocument.IsWrittenAs (document : IngestDocument) (form : Json) : Prop :=
  ∃ omitted, (∀ name ∈ omitted, document.MayLack name) ∧ form = document.toJson.without omitted

theorem IngestDocument.fields_layout (mode : Mode) : (layout mode).fields = fields mode :=
  rfl

theorem IngestDocument.eq_blank_of_mayLack (mode : Mode) (document : IngestDocument) :
    ∀ column ∈ (layout mode).columns, document.MayLack column.name →
      column.required = false ∧ column.get document = column.get blank := by
  simp [layout, MayLack, blank]

theorem IngestDocument.IsWrittenAs.reads {document : IngestDocument} {form : Json}
    (written : document.IsWrittenAs form) : ofJson form = .ok document := by
  obtain ⟨omitted, mayLack, rfl⟩ := written
  -- without the fields spelled as columns first, unifying the two lists takes seconds
  rw [toJson, ofJson, reader, ← fields_layout]
  refine (layout .strict).reads_without (by simp) ?_ ?_ .strict
  · simp [layout, text, any, Shape.fields, variant_byName, list_text_map, optional_text_ofOption]
  · intro column isColumn isOmitted
    exact eq_blank_of_mayLack .strict document column isColumn (mayLack _ isOmitted)

theorem IngestDocument.isWrittenAs_toJson (document : IngestDocument) :
    document.IsWrittenAs document.toJson :=
  ⟨[], nofun, (Json.without_nil _).symm⟩

/-- The columns of a job. -/
def Job.layout : Layout Job where
  columns :=
    [.mk "id" true text (·.id) fun job id => { job with id },
      .mk "subset" false text (·.subset) fun job subset => { job with subset },
      .mk "ingest_documents" true (list IngestDocument.ofJson) (·.documents)
        fun job documents => { job with documents }]
  apart := by simp [Column.apart_iff]
  whole := by
    rintro ⟨⟩ ⟨⟩ same
    simpa using same

/-- Whether a value is the form of a job, with any forms of its ingest documents, and maybe
without its subset if that is empty. -/
def Job.IsWrittenAs (job : Job) (form : Json) : Prop :=
  ∃ documents omitted, List.Forall₂ IngestDocument.IsWrittenAs job.documents documents ∧
    (∀ name ∈ omitted, name = "subset" ∧ job.subset = "") ∧
    form = (Json.ofFields [("id", .string job.id), ("subset", .string job.subset),
      ("ingest_documents", .array documents)]).without omitted

theorem Job.isWrittenAs_toJson (job : Job) : job.IsWrittenAs job.toJson := by
  refine ⟨_, [], ?_, nofun, (Json.without_nil _).symm⟩
  rw [List.forall₂_map_right_iff, List.forall₂_same]
  exact fun document _ => document.isWrittenAs_toJson

theorem Job.eq_blank_of_subset (job : Job) :
    ∀ column ∈ layout.columns, column.name = "subset" ∧ job.subset = "" →
      column.required = false ∧ column.get job = column.get ⟨"", "", []⟩ := by
  simp +contextual [layout]

theorem Job.IsWrittenAs.reads {job : Job} {form : Json} (written : job.IsWrittenAs form) :
    ofJson form = .ok job := by
  obtain ⟨documents, omitted, documentsWritten, mayLack, rfl⟩ := written
  have documentsRead : list IngestDocument.ofJson (.array documents) = .ok job.documents :=
    list_array (documentsWritten.flip.imp fun _ _ => IngestDocument.IsWrittenAs.reads)
  refine layout.reads_without (by simp) ?_ ?_ .strict
  · simp [layout, text, documentsRead]
  · intro column isColumn isOmitted
    exact eq_blank_of_subset job column isColumn (mayLack _ isOmitted)

/-- Work items, markers and the records of runs, with their times within 64 bits, and jobs
with all of their ingest documents read back as themselves.  So do jobs and ingest documents
if fields at their defaults are missing. -/
theorem records_read_back :
    (∀ item : WorkItem, (∀ path mtime, item.source = .path path mtime → mtime < 2 ^ 63) →
      WorkItem.ofJson item.toJson = .ok item) ∧
    (∀ record : DataFileRecord, record.mtime < 2 ^ 63 →
      DataFileRecord.ofJson record.toJson = .ok record) ∧
    (∀ record : LoadJobRecord, record.runStart < 2 ^ 63 → record.runEnd < 2 ^ 63 →
      LoadJobRecord.ofJson record.toJson = .ok record) ∧
    (∀ job : Job, Job.ofJson job.toJson = .ok job) ∧
    (∀ (document : IngestDocument) (form : Json), document.IsWrittenAs form →
      IngestDocument.ofJson form = .ok document) ∧
    ∀ (job : Job) (form : Json), job.IsWrittenAs form → Job.ofJson form = .ok job :=
  ⟨fun _ => WorkItem.ofJson_toJson, fun _ => DataFileRecord.ofJson_toJson,
    fun _ => LoadJobRecord.ofJson_toJson, fun job => job.isWrittenAs_toJson.reads,
    fun _ _ => IngestDocument.IsWrittenAs.reads, fun _ _ => Job.IsWrittenAs.reads⟩

/-- An ingest document with nothing but what it must have. -/
def IngestDocument.bare : IngestDocument :=
  ⟨"bare", .nestedRows, "", .object [("id", .string "*station")], [], [], [], none, none, none⟩

/-- The form of a job with one ingest document, both without fields at their defaults. -/
def Json.bareJob : Json :=
  .object [("id", .string "J"), ("ingest_documents", .array [.object
    [("builder_type", .string "nested_rows"), ("id", .string "bare"),
      ("template", .object [("id", .string "*station")])]])]

theorem Job.isWrittenAs_bareJob : IsWrittenAs ⟨"J", "", [.bare]⟩ .bareJob := by
  refine ⟨[_], ["subset"], .cons ⟨["subset", "params", "optional_fields", "record_ids",
    "input_dir", "file_pattern", "file_mask"], ?_, rfl⟩ .nil, ?_, ?_⟩
  · simp [IngestDocument.MayLack, IngestDocument.bare]
  · simp
  · decide +kernel

/-- The record of a run of a minute that left nothing to do. -/
def LoadJobRecord.idle : LoadJobRecord :=
  ⟨LoadJobRecord.idFor "V01" "J" 1700000000, type, "V01", "J", "", ["bare"], 1700000000, 1700000060,
    0, 0, 0, 0, 0, 0, 1, 0⟩

theorem records_read_back_bare :
    WorkItem.ofJson (WorkItem.ofPath "in/KDEN.json" 1700000000000 "bare").toJson =
        .ok (.ofPath "in/KDEN.json" 1700000000000 "bare") ∧
      WorkItem.ofJson (WorkItem.ofIdentifier "KDEN" "bare").toJson =
        .ok (.ofIdentifier "KDEN" "bare") ∧
      DataFileRecord.ofJson (DataFileRecord.make "in/KDEN.json" 1700000000000 .bare).toJson =
        .ok (.make "in/KDEN.json" 1700000000000 .bare) ∧
      LoadJobRecord.ofJson LoadJobRecord.idle.toJson = .ok .idle ∧
      IngestDocument.ofJson IngestDocument.bare.toJson = .ok .bare ∧
      Job.ofJson .bareJob = .ok ⟨"J", "", [.bare]⟩ := by
  obtain ⟨items, markers, runs, _, documents, jobs⟩ := records_read_back
  exact ⟨items _ (by simp [WorkItem.ofPath]), items _ (by simp [WorkItem.ofIdentifier]),
    markers _ (by simp [DataFileRecord.make]), runs .idle (by decide) (by decide),
    documents _ _ IngestDocument.bare.isWrittenAs_toJson, jobs _ _ Job.isWrittenAs_bareJob⟩

end DocumentIngest
