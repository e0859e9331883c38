/-
What an app and a template look back on: the revisions of an app, oldest first, and the versions of a
template, lowest first. Entries that are equally old or equally high keep their order.
-/
import MultiCluster.Client.Fault
namespace MultiCluster

/-- A revision to be shown. -/
structure RevisionEntry where
  name : String
  created : Instant
  current : Bool
  deriving DecidableEq

/-- A template version to be shown, as it was published. -/
structure VersionEntry where
  version : String
  current : Bool
  deriving DecidableEq

def readCreated (s : String) : Except Fault Instant := (Instant.read s).mapError (.invalidTimestamp s)

def readVersion (s : String) : Except Fault Version := (Version.readLenient s).mapError (.badVersion s)

/-- The app runs this revision: the text, which is not empty, is its name or its ID. -/
def Revision.isCurrent (current : String) (r : Revision) : Bool :=
  current ≠ "" && (r.name == current || r.id == current)

def RevisionEntry.ofRevision (current : String) (r : Revision) : Except Fault RevisionEntry := do
  return ⟨r.name, ← readCreated r.created, r.isCurrent current⟩

/-- The revisions, oldest first; the first bad timestamp is the error. -/
def sortRevisions (revisions : List Revision) (current : String) : Except Fault (List RevisionEntry) := do
  let entries ← revisions.mapM (RevisionEntry.ofRevision current)
  return entries.mergeSort fun a b => a.created.le b.created

/-- The versions, lowest first; the first text that is no version is the error. -/
def sortVersions (versions : List String) (current : String) : Except Fault (List VersionEntry) := do
  let read ← versions.mapM fun s => do return ((← readVersion s), s)
  return (read.mergeSort fun a b => a.1.le b.1).map fun p => ⟨p.2, p.2 == current⟩

end MultiCluster
