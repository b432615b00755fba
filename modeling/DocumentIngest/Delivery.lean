import DocumentIngest.FileTree
import DocumentIngest.Json.Printer
import DocumentIngest.Store

/-!
# Delivery

Built documents go to the store or into files.  To the store they go in one
batch together with the marker of their work item; into files, as one array for
each item.  What does not arrive is not sent again: without its marker the item
is offered again by the next run.
-/

namespace DocumentIngest

/-- What documents are read from and written to. -/
structure Archive (σ : Type) where
  store : σ
  files : FileTree
  /-- The time in milliseconds since the epoch, which new files bear. -/
  now : Int

/-- Where built documents go. -/
inductive Destination where
  | toStore
  | toFiles (directory : String)
deriving DecidableEq, Repr

/-- What happened to the documents of a work item. -/
inductive Delivery where
  /-- So many documents were written, the marker not counted. -/
  | written (count : Nat)
  /-- There were no documents. -/
  | empty
  /-- The write failed. -/
  | lost (reason : Failure)
deriving Repr

namespace Destination

/-- A directory for output asks for files. -/
def ofDirectory : Option String → Destination
  | some directory => toFiles directory
  | none => toStore

/-- A character of a file name; what is not a letter, a digit, a dot, a hyphen or
an underscore becomes an underscore. -/
def fileNameChar (character : Char) : Char :=
  if character.isAlphanum || character == '.' || character == '_' || character == '-' then
    character
  else '_'

/-- The name of the output file for a text. -/
def outputName (text : String) : String :=
  String.ofList (text.toList.map fileNameChar) ++ ".json"

/-- What the output file of a work item is named for. -/
def outputStem (item : WorkItem) : String :=
  match item.source with
  | .path path _ => Path.fileStem path
  | .identifier id => id

/-- The output file of a work item. -/
def target (directory : String) (item : WorkItem) : String :=
  Path.join directory (outputName (outputStem item))

variable {σ : Type}

/-- Writes a value into a file of a directory, which is made if it is not there. -/
def writeFile (archive : Archive σ) (directory path : String) (value : Json) :
    Archive σ × Except Failure Unit :=
  match archive.files.makeFolder? directory with
  | none =>
      (archive, .error (.during
        ("💀 Output directory '" ++ directory ++ "' could not be created") (.of .system)))
  | some files =>
      match files.write? path value.pretty.toUTF8.toList archive.now with
      | none =>
          ({ archive with files }, .error (.during
            ("💀 '" ++ path ++ "' could not be conjured into existence") (.of .system)))
      | some files => ({ archive with files }, .ok ())

variable [DocumentStore σ]

/-- Sends a batch to the store. -/
def sendBatch (archive : Archive σ) (batch : List Json) :
    Archive σ × Except StoreError Unit :=
  match DocumentStore.upsert archive.store batch with
  | (store, result) => ({ archive with store }, result.map fun _ => ())

/-- The batch of a work item: its documents, and behind them its marker. -/
def batch (documents : DocumentMap) (marker : Option DataFileRecord) : List Json :=
  Keyed.values documents ++ marker.toList.map DataFileRecord.toJson

/-- Writes the marker of a work item alone.  Files come without markers. -/
def markConsumed (destination : Destination) (archive : Archive σ)
    (marker : Option DataFileRecord) : Archive σ × Except StoreError Unit :=
  match destination, marker with
  | toStore, some marker => sendBatch archive (batch [] (some marker))
  | _, _ => (archive, .ok ())

/-- Writes the documents of a work item. -/
def deliver (destination : Destination) (archive : Archive σ) (item : WorkItem)
    (documents : DocumentMap) (marker : Option DataFileRecord) :
    Archive σ × Delivery :=
  if documents.isEmpty then
    match destination.markConsumed archive marker with
    | (archive, .ok _) => (archive, .empty)
    | (archive, .error fault) => (archive, .lost (.of (.store fault)))
  else
    match destination with
    | toStore =>
        match sendBatch archive (batch documents marker) with
        | (archive, .ok _) => (archive, .written documents.length)
        | (archive, .error fault) => (archive, .lost (.of (.store fault)))
    | toFiles directory =>
        match writeFile archive directory (target directory item)
            (.array (Keyed.values documents)) with
        | (archive, .ok _) => (archive, .written documents.length)
        | (archive, .error failure) => (archive, .lost failure)

/-- Writes the closing record of a run. -/
def recordRun (destination : Destination) (archive : Archive σ) (record : LoadJobRecord) :
    Archive σ × Except Failure Unit :=
  match destination with
  | toStore =>
      match sendBatch archive [record.toJson] with
      | (archive, result) => (archive, result.mapError fun fault => .of (.store fault))
  | toFiles directory =>
      writeFile archive directory (Path.join directory (outputName record.id)) record.toJson

end Destination

end DocumentIngest
