import DocumentIngest.Discovery
import Mathlib.Algebra.Order.Ring.Int

/-!
# Which files are new

What is known of a path is the latest time among its markers.  The work that is
selected are the candidates that pass the filter and are new, in another order.
-/

namespace DocumentIngest

namespace Discovery

/-- What is known of the paths once a marker is taken into account. -/
def noteTime (known : Keyed Int) (record : DataFileRecord) : Keyed Int :=
  match Keyed.lookup known record.url with
  | none => Keyed.insert known record.url record.mtime
  | some mtime => Keyed.insert known record.url (max mtime record.mtime)

theorem latestKnown_eq (records : List DataFileRecord) :
    latestKnown records = records.foldl noteTime [] :=
  rfl

/-- The latest known time of a path is the greatest of its markers' times. -/
theorem lookup_latestKnown (records : List DataFileRecord) (url : String) :
    Keyed.lookup (latestKnown records) url =
      ((records.filter fun record => record.url = url).map DataFileRecord.mtime).max? := by
  have folded : ∀ (rest : List DataFileRecord) (known : Keyed Int),
      Keyed.lookup (rest.foldl noteTime known) url =
        ((Keyed.lookup known url).toList ++
          (rest.filter fun record => record.url = url).map DataFileRecord.mtime).max? := by
    intro rest
    induction rest with
    | nil =>
        intro known
        rw [List.foldl_nil]
        cases Keyed.lookup known url with
        | none => rfl
        | some mtime => simp
    | cons record rest ih =>
        intro known
        rw [List.foldl_cons, ih, noteTime]
        by_cases same : record.url = url
        · cases found : Keyed.lookup known url with
          | none => simp [same, found]
          | some mtime =>
              simp only [same, found, Keyed.lookup_insert_self, List.filter_cons, decide_true,
                if_true, List.map_cons, Option.toList_some, List.cons_append, List.nil_append]
              rfl
        · have others : ∀ mtime, Keyed.lookup (Keyed.insert known record.url mtime) url =
              Keyed.lookup known url :=
            fun mtime => Keyed.lookup_insert_of_ne known mtime (Ne.symm same)
          cases Keyed.lookup known record.url with
          | none => simp [same, others]
          | some mtime => simp [same, others]
  rw [latestKnown_eq]
  exact folded records []

/-- If all markers of a path have one time, that is what is known of the path. -/
theorem lookup_latestKnown_of_forall {records : List DataFileRecord} {url : String} {mtime : Int}
    (someMarker : ∃ record ∈ records, record.url = url)
    (all : ∀ record ∈ records, record.url = url → record.mtime = mtime) :
    Keyed.lookup (latestKnown records) url = some mtime := by
  rw [lookup_latestKnown]
  obtain ⟨record, member, sameUrl⟩ := someMarker
  have kept : record ∈ records.filter fun record => record.url = url := by
    simpa [sameUrl] using member
  rw [List.max?_eq_some_iff]
  constructor
  · exact List.mem_map.mpr ⟨record, kept, all record member sameUrl⟩
  · intro other otherMember
    obtain ⟨marker, markerKept, rfl⟩ := List.mem_map.mp otherMember
    obtain ⟨markerMember, markerUrl⟩ := List.mem_filter.mp markerKept
    exact (all marker markerMember (by simpa using markerUrl)).le

theorem lookup_latestKnown_eq_none {records : List DataFileRecord} {url : String}
    (noMarker : ∀ record ∈ records, record.url ≠ url) :
    Keyed.lookup (latestKnown records) url = none := by
  have none : (records.filter fun record => record.url = url) = [] := by
    apply List.filter_eq_nil_iff.mpr
    intro record member
    simpa using noMarker record member
  rw [lookup_latestKnown, none]
  rfl

/-- The order in which work is offered leaves nothing out and adds nothing. -/
theorem mem_select {candidates : List Candidate} {known : Keyed Int} {filter : DiscoveryFilter}
    {candidate : Candidate} :
    candidate ∈ select candidates known filter ↔
      candidate ∈ candidates ∧ filter.admits candidate = true ∧ isNew known candidate = true := by
  rw [select, List.mem_mergeSort, List.mem_filter, List.mem_filter, and_assoc]

end Discovery

end DocumentIngest
