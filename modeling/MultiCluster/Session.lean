/-
Sessions: a client together with what was found through it. Names of clusters and projects and the
versions of template versions are asked for once; a failure is not remembered.
-/
import MultiCluster.Client.Lookup
import MultiCluster.Scope
namespace MultiCluster

structure Session (σ : Type) where
  client : σ
  /-- The IDs of the cluster references resolved so far. -/
  clusterIds : Dict String := ∅
  /-- The IDs of the project scopes resolved so far. -/
  projectIds : Dict String := ∅
  /-- The versions of the template-version IDs fetched so far. -/
  versions : Dict String := ∅

namespace Session

variable {σ : Type}

/-- A session on the same client that remembers nothing. -/
def renew (s : Session σ) : Session σ := { client := s.client }

/-- Work on the client alone. -/
def onClient {α : Type} (x : Attempt Fault σ α) : Attempt Fault (Session σ) α :=
  x.within Session.client fun c s => { s with client := c }

instance [Client σ] : Client (Session σ) where
  answer c := onClient (Client.answer c)
  supply s := Client.supply s.client
  supply_next kind page p s s' h := by
    have h' : (Client.answer (.next kind page) s.client).1 = .ok (some p) ∧
        s'.client = (Client.answer (.next kind page) s.client).2 := by
      simp only [onClient, Attempt.within, Prod.mk.injEq] at h
      exact ⟨h.1, by rw [← h.2]⟩
    rw [h'.2]
    exact Client.supply_next kind page p s.client _ (Prod.ext h'.1 rfl)

variable [Client σ]

/-- The ID of the cluster that a name or an ID stands for. -/
def resolveCluster (reference : String) : Attempt Fault (Session σ) String := do
  match (← Attempt.get).clusterIds.get? reference with
  | some id => return id
  | none => do
    let cluster : Cluster ← Client.lookup .cluster reference ∅
    Attempt.modify fun s => { s with clusterIds := s.clusterIds.insert reference cluster.id }
    return cluster.id

/-- The project that a scope stands for, its cluster part standing for the cluster with ID
`clusterId`. A cluster part that is an ID makes the whole scope a project's ID or name; else the rest
names a project of that cluster. -/
def findProject (scope clusterId : String) : Attempt Fault (Session σ) Project :=
  if clusterId = (splitScope scope).1 then Client.lookup .project scope ∅
  else Client.lookup .project (splitScope scope).2 (Dict.empty.insert "clusterId" clusterId)

/-- The ID of the project that a scope stands for: a project's ID, or the names of a cluster and of a
project in it. -/
def resolveProject (scope : String) : Attempt Fault (Session σ) String := do
  match (← Attempt.get).projectIds.get? scope with
  | some id => return id
  | none => do
    let clusterId ← resolveCluster (splitScope scope).1
    let project ← findProject scope clusterId
    Attempt.modify fun s => { s with projectIds := s.projectIds.insert scope project.id }
    return project.id

/-- The project IDs of target specifiers, in their order. -/
def resolveTargets : List String → Attempt Fault (Session σ) (List String)
  | [] => return []
  | t :: r => do
    let id ← resolveProject t
    return id :: (← resolveTargets r)

/-- The version that a template-version ID stands for. -/
def versionOf (id : String) : Attempt Fault (Session σ) String := do
  match (← Attempt.get).versions.get? id with
  | some v => return v
  | none => do
    let found : TemplateVersion ← Client.byId .templateVersion id
    Attempt.modify fun s => { s with versions := s.versions.insert id found.version }
    return found.version

end Session

end MultiCluster
