/-
The directory of clusters and projects, by which targets are shown under the names of their cluster
and project.
-/
import MultiCluster.Client.Lookup
import MultiCluster.Scope
namespace MultiCluster

structure Directory where
  clusters : Dict Cluster := ∅
  projects : Dict Project := ∅

namespace Directory

def ofRecords (clusters : List Cluster) (projects : List Project) : Directory where
  clusters := Dict.ofList (clusters.map fun c => (c.id, c))
  projects := Dict.ofList (projects.map fun p => (p.id, p))

/-- The directory of everything the server lists. -/
def load {σ : Type} [Client σ] : Attempt Fault σ Directory := do
  let clusters ← Client.listAll .cluster ∅
  let projects ← Client.listAll .project ∅
  return ofRecords clusters projects

/-- `cluster:project` by their names, or the project's ID where one of the two is not known. -/
def readableName (d : Directory) (t : Target) : String :=
  match d.clusters.get? (splitScope t.projectId).1, d.projects.get? t.projectId with
  | some cluster, some project => joinScope cluster.name project.name
  | _, _ => t.projectId

def readableNames (d : Directory) (ts : List Target) : List String := ts.map d.readableName

end Directory

end MultiCluster
