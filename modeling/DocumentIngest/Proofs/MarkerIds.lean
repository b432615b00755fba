import DocumentIngest.Proofs.Markers
import DocumentIngest.Proofs.ValidatedJobs

/-!
# Which markers share an id

The id of a marker joins the subset, the builder, the ingest document and the name of
the file by colons.  As long as subsets and file names have none, the id can be cut
into these pieces again, so it tells the ingest document and the name of the file, and
the whole path if every ingest document keeps to one directory.  A colon in the name of
a file can move the border between the ingest document and the file, and then the
marker of one file takes the place of that of another.
-/

namespace DocumentIngest

open Fallible

theorem BuilderType.colon_not_mem_name (builder : BuilderType) : ':' ∉ builder.name.toList := by
  cases builder with
  | rowPerDocument => decide
  | nestedRows => decide

namespace DataFileRecord

theorem toList_id_make (path : String) (mtime : Int) (document : IngestDocument) :
    (make path mtime document).id.toList =
      type.toList ++ ':' :: (document.subset.toList ++ ':' ::
        (document.builder.name.toList ++ ':' ::
          (document.id.toList ++ ':' :: (Path.fileName path).toList))) := by
  simp [make, String.intercalate_cons_cons]

theorem id_make_eq_iff {first second : IngestDocument} {path other : String}
    (plainSubset : ':' ∉ first.subset.toList) (otherPlainSubset : ':' ∉ second.subset.toList)
    (plainName : ':' ∉ (Path.fileName path).toList)
    (otherPlainName : ':' ∉ (Path.fileName other).toList) (mtime otherMtime : Int) :
    (make path mtime first).id = (make other otherMtime second).id ↔
      first.subset = second.subset ∧ first.builder.name = second.builder.name ∧
        first.id = second.id ∧ Path.fileName path = Path.fileName other := by
  have typeIsPlain : ':' ∉ type.toList := by decide
  -- The subset and the builder end at the first colons, the name begins behind the last.
  rw [← String.toList_inj, toList_id_make, toList_id_make,
    Text.append_separator_inj typeIsPlain typeIsPlain,
    Text.append_separator_inj plainSubset otherPlainSubset,
    Text.append_separator_inj first.builder.colon_not_mem_name second.builder.colon_not_mem_name,
    Text.append_separator_inj_of_last plainName otherPlainName]
  simp only [String.toList_inj, true_and]

end DataFileRecord

namespace Job

/-- Whether the id of a marker tells its ingest document and its path. -/
def TellsMarkersApart (job : Job) : Prop :=
  ∀ first ∈ job.documents, ∀ second ∈ job.documents, ∀ path other mtime otherMtime,
    (Path.fileName? path).isSome → (Path.fileName? other).isSome →
      (DataFileRecord.make path mtime first).id = (DataFileRecord.make other otherMtime second).id →
        first = second ∧ path = other

variable {job : Job}

/-- In a validated job whose subsets have no colons, the markers of files without colons in
their names share an id only if they are of one ingest document and of files of one name;
if every ingest document keeps to a directory of its own, then they are of one file. -/
theorem tells_plain_markers_apart (valid : job.validate = .ok ())
    (plainSubsets : ∀ document ∈ job.documents, ':' ∉ document.subset.toList)
    {first second : IngestDocument} (firstMember : first ∈ job.documents)
    (secondMember : second ∈ job.documents) (mtime otherMtime : Int) :
    (∀ path other, ':' ∉ (Path.fileName path).toList → ':' ∉ (Path.fileName other).toList →
      ((DataFileRecord.make path mtime first).id =
          (DataFileRecord.make other otherMtime second).id ↔
        first = second ∧ Path.fileName path = Path.fileName other)) ∧
    ∀ (directoryOf : IngestDocument → String) (name other : String),
      Path.IsName name → Path.IsName other → ':' ∉ name.toList → ':' ∉ other.toList →
        ((DataFileRecord.make (Path.join (directoryOf first) name) mtime first).id =
            (DataFileRecord.make (Path.join (directoryOf second) other) otherMtime second).id ↔
          first = second ∧
            Path.join (directoryOf first) name = Path.join (directoryOf second) other) := by
  have byNames : ∀ path other, ':' ∉ (Path.fileName path).toList →
      ':' ∉ (Path.fileName other).toList →
      ((DataFileRecord.make path mtime first).id =
          (DataFileRecord.make other otherMtime second).id ↔
        first = second ∧ Path.fileName path = Path.fileName other) := by
    intro path other plain otherPlain
    rw [DataFileRecord.id_make_eq_iff (plainSubsets first firstMember)
      (plainSubsets second secondMember) plain otherPlain]
    constructor
    · rintro ⟨_, _, sameId, sameName⟩
      exact ⟨eq_of_id_eq valid firstMember secondMember sameId, sameName⟩
    · rintro ⟨rfl, sameName⟩
      exact ⟨rfl, rfl, rfl, sameName⟩
  refine ⟨byNames, ?_⟩
  intro directoryOf name other isName otherIsName plain otherPlain
  have nameOf := Path.fileName_join isName (directoryOf first)
  have otherNameOf := Path.fileName_join otherIsName (directoryOf second)
  rw [byNames _ _ (by rwa [nameOf]) (by rwa [otherNameOf]), nameOf, otherNameOf]
  constructor
  · rintro ⟨rfl, rfl⟩
    exact ⟨rfl, rfl⟩
  · rintro ⟨rfl, samePath⟩
    exact ⟨rfl, (Path.join_inj isName otherIsName).mp samePath⟩

theorem tells_plain_markers_apart_stations :
    (DataFileRecord.make (Path.join "in" "a.json") 5 .stations).id ≠
      (DataFileRecord.make (Path.join "in" "b.json") 5 .stations).id := by
  have valid : Job.stations.validate = .ok () := eq_ok_of_isOk (by decide +kernel)
  have member : IngestDocument.stations ∈ Job.stations.documents := List.mem_singleton_self _
  have apart := (tells_plain_markers_apart valid (by decide) member member 5 5).2
    (fun _ => "in") "a.json" "b.json" (by decide) (by decide) (by decide) (by decide)
  rw [Ne, apart]
  decide +kernel

end Job

/-- Two ingest documents of one directory, one of which has a colon in its id. -/
def Job.colons : Job :=
  ⟨"j", "",
    [{ IngestDocument.blank with
        id := "d"
        template := .object [("id", .string "A:*k")]
        filePattern := some "e:*" },
      { IngestDocument.blank with
        id := "d:e"
        template := .object [("id", .string "B:*k")]
        filePattern := some "a*" }]⟩

theorem Job.not_tellsMarkersApart :
    ¬∀ job : Job, job.validate = .ok () → job.TellsMarkersApart := by
  intro tellsApart
  have valid : Job.colons.validate = .ok () := eq_ok_of_isOk (by decide +kernel)
  have apart := tellsApart .colons valid _ List.mem_cons_self _
    (List.mem_cons_of_mem _ List.mem_cons_self) "in/e:a.json" "in/a.json" 1000 1000
    (by decide +kernel) (by decide +kernel) (by decide +kernel)
  exact absurd apart.2 (by decide)

end DocumentIngest
