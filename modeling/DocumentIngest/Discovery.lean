import DocumentIngest.Calendar.Stamp
import DocumentIngest.Discovery.Glob
import DocumentIngest.Failure
import DocumentIngest.FileTree
import DocumentIngest.WorkItem

/-!
# Finding work

The work of a run is what was not ingested yet.  Files of a directory are
candidates; one is work when its path has no marker, or only markers of an
earlier modification time.  Work is offered oldest first, and by path among files
of the same time.
-/

namespace DocumentIngest

/-- A file that may be work; the modification time is in milliseconds since the
epoch. -/
structure Candidate where
  path : String
  mtime : Int
deriving DecidableEq, Repr, Inhabited

/-- Which candidates are eligible.  Without a mask every one is; with a mask a
file name has to be a time under it, and the window bounds that time. -/
structure DiscoveryFilter where
  mask : Option String := none
  /-- The first second of the window. -/
  first : Option Int := none
  /-- The last second of the window. -/
  last : Option Int := none
deriving DecidableEq, Repr, Inhabited

namespace DiscoveryFilter

def admits (filter : DiscoveryFilter) (candidate : Candidate) : Bool :=
  match filter.mask with
  | none => true
  | some mask =>
      match Calendar.secondsUnder (Path.fileName candidate.path) mask with
      | .error _ => false
      | .ok stamp =>
          filter.first.all (fun first => decide (first ≤ stamp)) &&
            filter.last.all (fun last => decide (stamp ≤ last))

end DiscoveryFilter

namespace Candidate

/-- Whether a candidate may stand before another one: it is older, or of the same
time and not behind it by path. -/
def comesBefore (first second : Candidate) : Bool :=
  decide (first.mtime < second.mtime) ||
    (decide (first.mtime = second.mtime) && !Path.before second.path first.path)

end Candidate

namespace Discovery

/-- The latest modification time that markers hold for each path. -/
def latestKnown (records : List DataFileRecord) : Keyed Int :=
  records.foldl
    (fun known record =>
      match Keyed.lookup known record.url with
      | none => Keyed.insert known record.url record.mtime
      | some mtime => Keyed.insert known record.url (max mtime record.mtime))
    []

/-- Whether a candidate was not ingested yet, or changed since. -/
def isNew (known : Keyed Int) (candidate : Candidate) : Bool :=
  match Keyed.lookup known candidate.path with
  | none => true
  | some recorded => decide (recorded < candidate.mtime)

/-- The candidates that are work, in the order in which they are offered. -/
def select (candidates : List Candidate) (known : Keyed Int) (filter : DiscoveryFilter) :
    List Candidate :=
  ((candidates.filter filter.admits).filter (isNew known)).mergeSort Candidate.comesBefore

/-- The greatest time that a candidate can bear. -/
def latestTime : Int := 2 ^ 63 - 1

/-- The time that a candidate bears for the modification time of its file: times
before the epoch count as the epoch, and those beyond 64 bits as the greatest. -/
def listedTime (modified : Int) : Int :=
  min latestTime (max 0 modified)

/-- The files in a directory whose names match a pattern, in the order of their
names. -/
def candidatesIn (files : FileTree) (directory pattern : String) :
    Except Failure (List Candidate) :=
  match files.list? directory with
  | none =>
      .error (.during
        ("💀 Could not list input directory '" ++ directory ++
          "'. Does it exist? Can we read it?")
        (.of .system))
  | some entries =>
      .ok (entries.filterMap fun entry =>
        match entry.2 with
        | .file _ modified =>
            if (Glob.ofPattern pattern).matchesName entry.1 then
              some ⟨Path.join directory entry.1, listedTime modified⟩
            else none
        | .folder _ => none)

end Discovery

end DocumentIngest
