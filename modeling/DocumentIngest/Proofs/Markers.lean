import DocumentIngest.Proofs.Deliveries
import DocumentIngest.Proofs.PathNames

/-!
# Markers in the store

A marker that was written reads back as itself.  The record of a run never reads
as a marker, because its type says otherwise.  The ids of markers begin with a
piece of their own, and among the files of one directory they differ as the names
of the files do.
-/

namespace DocumentIngest

namespace DataFileRecord

theorem toJson_eq (record : DataFileRecord) :
    record.toJson = .object
      [("builder_type", .string record.builder), ("id", .string record.id),
        ("ingest_document", .string record.ingestDocument), ("mtime", .ofInt record.mtime),
        ("subset", .string record.subset), ("type", .string record.recordType),
        ("url", .string record.url)] := by
  simp +decide only [toJson, Json.ofFields, Keyed.ofPairs, Keyed.insert, List.foldl_cons,
    List.foldl_nil, if_true, if_false]

/-- A marker of a time within 64 bits reads back as itself. -/
theorem ofJson_toJson {record : DataFileRecord} (bounded : record.mtime < 2 ^ 63) :
    ofJson record.toJson = .ok record := by
  have small : record.mtime < 9223372036854775808 := bounded
  rw [toJson_eq]
  simp [ofJson, Shape.record, Shape.readEntries, Shape.required, Shape.Field.name, Shape.text,
    Shape.integer, Json.ofInt, Except.map, small]

/-- Only under its own ingest document a marker counts as one. -/
theorem markerOf?_toJson {record : DataFileRecord} (bounded : record.mtime < 2 ^ 63)
    (isMarker : record.recordType = type) :
    MemoryStore.markerOf? record.ingestDocument record.toJson = some record := by
  have typed : record.toJson.textField? "type" = some type := by
    rw [toJson_eq, ← isMarker]
    simp [Json.textField?, Json.field?, Keyed.lookup, Json.asText?]
  have document : record.toJson.textField? "ingest_document" = some record.ingestDocument := by
    rw [toJson_eq]
    simp [Json.textField?, Json.field?, Keyed.lookup, Json.asText?]
  rw [MemoryStore.markerOf?, if_pos ⟨typed, document⟩, ofJson_toJson bounded]
  rfl

end DataFileRecord

theorem MemoryStore.markerOf?_of_type_ne {document : Json} (documentId : String)
    (otherType : document.textField? "type" ≠ some DataFileRecord.type) :
    markerOf? documentId document = none :=
  if_neg fun marker => otherType marker.1

/-- The record of a run is no marker. -/
theorem LoadJobRecord.markerOf?_toJson {record : LoadJobRecord} (documentId : String)
    (isRecord : record.recordType = type) :
    MemoryStore.markerOf? documentId record.toJson = none := by
  apply MemoryStore.markerOf?_of_type_ne
  have typed : record.toJson.textField? "type" = some type := by
    simp [toJson, Json.ofFields, Json.textField?, Json.field?, Keyed.ofPairs, Keyed.lookup_insert,
      Json.asText?, isRecord]
  rw [typed]
  decide

/-- The piece that an id begins with, up to its first colon. -/
def firstPiece (id : String) : List Char :=
  id.toList.takeWhile (· ≠ ':')

/-- The first piece of pieces between colons is the first of them. -/
theorem firstPiece_intercalate {piece : String} (whole : ':' ∉ piece.toList)
    (others : List String) : firstPiece (":".intercalate (piece :: others)) = piece.toList := by
  have keeps : ∀ c ∈ piece.toList, decide (c ≠ ':') = true := by
    intro c member
    rw [decide_eq_true_iff]
    rintro rfl
    exact whole member
  cases others with
  | nil =>
      rw [String.intercalate_singleton, firstPiece, ← List.append_nil piece.toList,
        List.takeWhile_append_of_pos keeps]
      simp
  | cons next others =>
      rw [String.intercalate_cons_cons, firstPiece, String.toList_append, String.toList_append,
        List.append_assoc, List.takeWhile_append_of_pos keeps]
      simp

namespace DataFileRecord

variable (path : String) (mtime : Int) (document : IngestDocument)

theorem firstPiece_id_make : firstPiece (make path mtime document).id = ['D', 'F'] :=
  firstPiece_intercalate (by decide) _

theorem id_make_inj {path other : String} {mtime otherMtime : Int} {document : IngestDocument} :
    (make path mtime document).id = (make other otherMtime document).id ↔
      Path.fileName path = Path.fileName other := by
  simp [make, String.intercalate_cons_cons]

end DataFileRecord

theorem LoadJobRecord.firstPiece_idFor (subset jobId : String) (runStart : Int) :
    firstPiece (idFor subset jobId runStart) = ['L', 'J'] :=
  firstPiece_intercalate (by decide) _

end DocumentIngest
