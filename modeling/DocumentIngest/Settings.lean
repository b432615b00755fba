import DocumentIngest.Store.Elasticsearch
import DocumentIngest.Text.Blank

/-!
# Settings

What a run is told from outside: how many workers there are and how patient they
are, which store is used, where output goes, which job is run and where its files
lie.
-/

namespace DocumentIngest

/-- How many workers there are, and how patient they are. -/
structure RuntimeSettings where
  workerCount : Nat := 4
  /-- How often a worker looks into an empty queue again. -/
  drainRetries : Nat := 3
  drainWaitMs : Nat := 250
  /-- How often a connection is tried again. -/
  connectRetries : Nat := 3
  connectBackoffMs : Nat := 1000
deriving DecidableEq, Repr, Inhabited

/-- Which store a run uses. -/
inductive StoreChoice where
  | elasticsearch (settings : ElasticsearchSettings)
  | inMemory
deriving DecidableEq, Repr, Inhabited

/-- Where the job of a run comes from; a file goes before an id in the store. -/
structure JobSource where
  id : Option String := none
  specFile : Option String := none
  /-- A tag that the record of the run carries. -/
  lineage : String := "ingx"
deriving DecidableEq, Repr, Inhabited

/-- Where files lie, for ingest documents that do not say it themselves. -/
structure DiscoverySettings where
  inputDirectory : Option String := none
  filePattern : Option String := none
  fileMask : Option String := none
  firstEpoch : Option Int := none
  lastEpoch : Option Int := none
deriving DecidableEq, Repr, Inhabited

/-- All settings of a run. -/
structure Settings where
  runtime : RuntimeSettings := {}
  store : StoreChoice := .inMemory
  outputDirectory : Option String := none
  job : JobSource := {}
  discovery : DiscoverySettings := {}
deriving DecidableEq, Repr, Inhabited

namespace RuntimeSettings

/-- Reads runtime settings; the number of workers has a second name. -/
def reader (mode : Shape.Mode) : Shape.Reader RuntimeSettings :=
  Shape.record mode
    [⟨["worker_count", "threads"], false, fun settings value =>
        (Shape.natural value).map fun workerCount => { settings with workerCount }⟩,
      Shape.defaulted "drain_retries" Shape.natural
        fun settings drainRetries => { settings with drainRetries },
      Shape.defaulted "drain_wait_ms" Shape.natural
        fun settings drainWaitMs => { settings with drainWaitMs },
      Shape.defaulted "connect_retries" Shape.natural
        fun settings connectRetries => { settings with connectRetries },
      Shape.defaulted "connect_backoff_ms" Shape.natural
        fun settings connectBackoffMs => { settings with connectBackoffMs }]
    {}

def toJson (settings : RuntimeSettings) : Json :=
  .ofFields
    [("worker_count", .ofNat settings.workerCount),
      ("drain_retries", .ofNat settings.drainRetries),
      ("drain_wait_ms", .ofNat settings.drainWaitMs),
      ("connect_retries", .ofNat settings.connectRetries),
      ("connect_backoff_ms", .ofNat settings.connectBackoffMs)]

end RuntimeSettings

namespace StoreChoice

/-- The kinds of stores. -/
inductive Kind where
  | cluster
  | memory
deriving DecidableEq

/-- The names of the kinds. -/
def kinds : List (String × Kind) :=
  [("Elasticsearch", .cluster), ("elasticsearch", .cluster), ("InMemory", .memory),
    ("in_memory", .memory)]

/-- Reads a store: the name of a kind without settings, or an object with the
settings under the name. -/
def reader (mode : Shape.Mode) : Shape.Reader StoreChoice
  | .string name =>
      match kinds.lookup name with
      | some .memory => .ok inMemory
      | some .cluster => .error .wrongType
      | none => .error .unknownVariant
  | .object ((name, content) :: rest) =>
      if mode = .strict ∧ rest ≠ [] then .error .wrongValue
      else
        match kinds.lookup name with
        | some .memory => if content.isNull then .ok inMemory else .error .wrongType
        | some .cluster => (ElasticsearchSettings.reader mode content).map elasticsearch
        | none => .error .unknownVariant
  | _ => .error .wrongType

def toJson : StoreChoice → Json
  | elasticsearch settings => .ofFields [("Elasticsearch", settings.toJson)]
  | inMemory => .string "InMemory"

end StoreChoice

namespace JobSource

def reader (mode : Shape.Mode) : Shape.Reader JobSource :=
  Shape.record mode
    [Shape.defaulted "id" (Shape.optional Shape.text) fun source id => { source with id },
      Shape.defaulted "spec_file" (Shape.optional Shape.text)
        fun source specFile => { source with specFile },
      Shape.defaulted "lineage" Shape.text fun source lineage => { source with lineage }]
    {}

def toJson (source : JobSource) : Json :=
  .ofFields
    [("id", .ofOption source.id), ("spec_file", .ofOption source.specFile),
      ("lineage", .string source.lineage)]

end JobSource

namespace DiscoverySettings

def reader (mode : Shape.Mode) : Shape.Reader DiscoverySettings :=
  Shape.record mode
    [Shape.defaulted "input_dir" (Shape.optional Shape.text)
        fun settings inputDirectory => { settings with inputDirectory },
      Shape.defaulted "file_pattern" (Shape.optional Shape.text)
        fun settings filePattern => { settings with filePattern },
      Shape.defaulted "file_mask" (Shape.optional Shape.text)
        fun settings fileMask => { settings with fileMask },
      Shape.defaulted "first_epoch" (Shape.optional Shape.integer)
        fun settings firstEpoch => { settings with firstEpoch },
      Shape.defaulted "last_epoch" (Shape.optional Shape.integer)
        fun settings lastEpoch => { settings with lastEpoch }]
    {}

def toJson (settings : DiscoverySettings) : Json :=
  .ofFields
    [("input_dir", .ofOption settings.inputDirectory),
      ("file_pattern", .ofOption settings.filePattern),
      ("file_mask", .ofOption settings.fileMask),
      ("first_epoch", settings.firstEpoch.elim .null .ofInt),
      ("last_epoch", settings.lastEpoch.elim .null .ofInt)]

end DiscoverySettings

namespace Settings

/-- Reads where output goes. -/
def outputReader (mode : Shape.Mode) : Shape.Reader (Option String) :=
  Shape.record mode
    [Shape.defaulted "dir" (Shape.optional Shape.text) fun _ directory => directory] none

/-- Reads settings. -/
def reader (mode : Shape.Mode) : Shape.Reader Settings :=
  Shape.record mode
    [Shape.defaulted "runtime" (RuntimeSettings.reader mode)
        fun settings runtime => { settings with runtime },
      Shape.required "store" (StoreChoice.reader mode)
        fun settings store => { settings with store },
      Shape.defaulted "output" (outputReader mode)
        fun settings outputDirectory => { settings with outputDirectory },
      Shape.defaulted "job" (JobSource.reader mode) fun settings job => { settings with job },
      Shape.defaulted "discovery" (DiscoverySettings.reader mode)
        fun settings discovery => { settings with discovery }]
    {}

/-- Reads settings from a JSON document. -/
def ofJson : Shape.Reader Settings :=
  reader .strict

/-- Settings with every field written out. -/
def toJson (settings : Settings) : Json :=
  .ofFields
    [("runtime", settings.runtime.toJson), ("store", settings.store.toJson),
      ("output", .ofFields [("dir", .ofOption settings.outputDirectory)]),
      ("job", settings.job.toJson), ("discovery", settings.discovery.toJson)]

/-- Checks what the form of settings does not: that there are workers, and that
the settings of a cluster are complete. -/
def validate (settings : Settings) : Except SetupError Unit :=
  if settings.runtime.workerCount = 0 then
    .error (.missingField "runtime.worker_count (at least one worker)")
  else
    match settings.store with
    | .inMemory => .ok ()
    | .elasticsearch cluster =>
        if Text.allBlank cluster.url then .error (.missingField "store.Elasticsearch.url")
        else if Text.allBlank cluster.index then
          .error (.missingField "store.Elasticsearch.index")
        else if cluster.username.isSome && cluster.password.isNone then
          .error (.missingField "store.Elasticsearch.password")
        else .ok ()

end Settings

end DocumentIngest
