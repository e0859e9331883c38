/-
Where the project of a scope lies. A scope finds its project in one of four ways (`Finds`): if its
cluster part is an ID the whole scope is a project's name, or else its ID; if the cluster part is a
name the rest is the name of a project in that cluster, or else an ID. Only the third way looks at the
cluster. The second stays in it where no cluster ID has a colon, and the other two need not stay in it
at all. So a project that was found lies in the cluster that its scope begins with except where the
whole scope is its name, or the rest of the scope its ID (`resolveProject_in_cluster`).
-/
import MultiCluster.Proofs.Scope
import MultiCluster.Proofs.Session.Resolution
import MultiCluster.Proofs.Store.Reachable
import Mathlib
namespace MultiCluster

namespace Store

/-- How a scope whose cluster part stands for `clusterId` finds a project. -/
inductive Finds (s : Store) (scope clusterId : String) (p : Project) : Prop
  | byWholeName : clusterId = (splitScope scope).1 → p.name = scope → Finds s scope clusterId p
  | byWholeId : clusterId = (splitScope scope).1 → p.id = scope →
      (∀ q, s.get? .project q.id = some q → q.name ≠ scope) → Finds s scope clusterId p
  | byName : clusterId ≠ (splitScope scope).1 → p.name = (splitScope scope).2 → p.clusterId = clusterId →
      Finds s scope clusterId p
  | byId : clusterId ≠ (splitScope scope).1 → p.id = (splitScope scope).2 →
      (∀ q, s.get? .project q.id = some q → q.clusterId = clusterId → q.name ≠ (splitScope scope).2) →
      Finds s scope clusterId p

variable {s : Store} {scope clusterId : String} {p : Project}

/-- Whatever is found is a record, and is found in one of these ways. -/
theorem finds_of_projectIn (hk : s.Keyed) (h : s.projectIn scope clusterId = .ok p) :
    s.get? .project p.id = some p ∧ s.Finds scope clusterId p := by
  unfold projectIn at h
  split at h
  · rename_i hpart
    obtain ⟨-, hp, hname | ⟨hid, hnone⟩⟩ := lookedUp_eq_ok hk h
    · have hm := (hname p hp).2 rfl
      exact ⟨hp, .byWholeName hpart (Kind.matchesAll_project_name.1 hm)⟩
    · refine ⟨hp, .byWholeId hpart hid ?_⟩
      intro q hq hn
      exact hnone q hq (Kind.matchesAll_project_name.2 hn)
  · rename_i hpart
    obtain ⟨-, hp, hname | ⟨hid, hnone⟩⟩ := lookedUp_eq_ok hk h
    · have hm := (hname p hp).2 rfl
      obtain ⟨hn, hcluster⟩ := Kind.matchesAll_project_in.1 hm
      exact ⟨hp, .byName hpart hn hcluster⟩
    · refine ⟨hp, .byId hpart hid ?_⟩
      intro q hq hcluster hn
      exact hnone q hq (Kind.matchesAll_project_in.2 ⟨hn, hcluster⟩)

namespace Finds

/-- A scope that begins with a cluster's ID and is not the project's name is the project's ID, which
begins with the ID of its own cluster. -/
theorem clusterId_of_whole (h : s.Finds scope clusterId p) (hpart : clusterId = (splitScope scope).1)
    (hid : ∃ rest, p.id = joinScope p.clusterId rest) (hname : p.name ≠ scope) (hcolon : ':' ∉ p.clusterId.toList) :
    p.clusterId = clusterId := by
  cases h with
  | byWholeName _ hn => exact absurd hn hname
  | byWholeId _ hscope _ =>
    obtain ⟨rest, hrest⟩ := hid
    have hsplit : splitScope scope = (p.clusterId, rest) := by rw [← hscope, hrest, splitScope_joinScope hcolon]
    rw [hpart, hsplit]
  | byName hne _ _ => exact absurd hpart hne
  | byId hne _ _ => exact absurd hpart hne

/-- A scope that begins with a cluster's name finds a project of the cluster unless its rest is the
project's ID and no name there. -/
theorem clusterId_of_rest (h : s.Finds scope clusterId p) (hpart : clusterId ≠ (splitScope scope).1)
    (hrest : p.id = (splitScope scope).2 →
      ∃ q, s.get? .project q.id = some q ∧ q.clusterId = clusterId ∧ q.name = (splitScope scope).2) :
    p.clusterId = clusterId := by
  cases h with
  | byWholeName he _ => exact absurd he hpart
  | byWholeId he _ _ => exact absurd he hpart
  | byName _ _ hcluster => exact hcluster
  | byId _ hid hnone =>
    obtain ⟨q, hq, hcluster, hn⟩ := hrest hid
    exact absurd hn (hnone q hq hcluster)

end Finds

end Store

namespace Session

variable {s : Store} {t : Session Store} {scope clusterId projectId : String}

/-- What resolves on a session resolves on the records. -/
theorem projectIn_of_resolveProject (ht : Sound s t)
    (hc : ((resolveCluster (splitScope scope).1).run t).1 = .ok clusterId)
    (hp : ((resolveProject scope).run t).1 = .ok projectId) :
    ∃ p, s.projectIn scope clusterId = .ok p ∧ p.id = projectId := by
  obtain ⟨tc, hrunc, -⟩ := run_resolveCluster ht (splitScope scope).1
  obtain ⟨tp, hrunp, -⟩ := run_resolveProject ht scope
  rw [hrunc] at hc
  rw [hrunp] at hp
  obtain ⟨c, p, hc', hp', hid⟩ := Store.projectIdOf_eq_ok hp
  obtain rfl : clusterId = c := Except.ok.inj (hc.symm.trans hc')
  exact ⟨p, hp', hid⟩

end Session

/-- Where projects' IDs begin with their clusters', a project that a scope resolves to is a record of
the cluster that the first part of the scope resolves to. If that part is the cluster's ID this holds
unless the whole scope is the project's name or the project's cluster has a colon in its ID; if it is
not, unless the rest of the scope is the project's ID and the name of no project of the cluster. -/
theorem resolveProject_in_cluster {s : Store} (hr : s.Reachable)
    (hids : ∀ id p, s.get? .project id = some p → ∃ rest, p.id = joinScope p.clusterId rest)
    {t : Session Store} (ht : Session.Sound s t) {scope clusterId projectId : String}
    (hc : ((Session.resolveCluster (splitScope scope).1).run t).1 = .ok clusterId)
    (hp : ((Session.resolveProject scope).run t).1 = .ok projectId) :
    ∃ p, s.get? .project projectId = some p ∧
      (clusterId = (splitScope scope).1 → p.name ≠ scope → ':' ∉ p.clusterId.toList → p.clusterId = clusterId) ∧
      (clusterId ≠ (splitScope scope).1 →
        (p.id = (splitScope scope).2 →
          ∃ q, s.get? .project q.id = some q ∧ q.clusterId = clusterId ∧ q.name = (splitScope scope).2) →
        p.clusterId = clusterId) := by
  obtain ⟨p, hfound, rfl⟩ := Session.projectIn_of_resolveProject ht hc hp
  obtain ⟨hstored, hfinds⟩ := Store.finds_of_projectIn hr.keyed hfound
  refine ⟨p, hstored, ?_, ?_⟩
  · intro hpart hname hcolon
    exact hfinds.clusterId_of_whole hpart (hids p.id p hstored) hname hcolon
  · intro hpart hrest
    exact hfinds.clusterId_of_rest hpart hrest

/-- Two clusters with a project of the same name in each; the name has a colon. -/
def Store.twins : Store :=
  ofRecords [⟨"c-1", "prod"⟩, ⟨"c-2", "dev"⟩] [⟨"c-1:p-1", "team:web", "c-1"⟩, ⟨"c-2:p-7", "team:web", "c-2"⟩]

/-- The cluster that is named tells the projects apart. -/
theorem resolveProject_in_cluster_twins :
    ((Session.resolveProject "dev:team:web").run ({ client := .twins } : Session Store)).1 = .ok "c-2:p-7" ∧
      ∃ p, Store.twins.get? .project "c-2:p-7" = some p ∧ p.clusterId = "c-2" := by
  have hids : ∀ id p, Store.twins.get? .project id = some p → ∃ rest, p.id = joinScope p.clusterId rest :=
    Store.forall_project_ofRecords
      (List.forall_mem_cons.2 ⟨⟨"p-1", by decide⟩, List.forall_mem_singleton.2 ⟨"p-7", by decide⟩⟩)
  have hsound : Session.Sound .twins ({ client := .twins } : Session Store) :=
    Session.sound_fresh (.refl (Store.unscripted_ofRecords _) (Store.unscripted_ofRecords _))
  have hcluster :
      ((Session.resolveCluster (splitScope "dev:team:web").1).run ({ client := .twins } : Session Store)).1 =
      .ok "c-2" := by cbv
  have hproject : ((Session.resolveProject "dev:team:web").run ({ client := .twins } : Session Store)).1 =
      .ok "c-2:p-7" := by cbv
  obtain ⟨p, hp, -, hrest⟩ :=
    resolveProject_in_cluster Store.reachable_ofRecords hids hsound hcluster hproject
  have hid : p.id = "c-2:p-7" := Store.reachable_ofRecords.keyed .project _ p hp
  refine ⟨hproject, p, hp, hrest (by decide) fun he => ?_⟩
  rw [hid] at he
  exact absurd he (by decide)

/-- A cluster whose ID begins with another's, a project that is named like the ID of one in another
cluster, and a project that is in the cluster of neither. -/
def Store.misleading : Store :=
  ofRecords [⟨"c-1", "prod"⟩, ⟨"c-2", "dev"⟩, ⟨"c-1:x", "edge"⟩]
    [⟨"c-1:p-1", "web", "c-1"⟩, ⟨"c-2:p-9", "c-1:p-1", "c-2"⟩, ⟨"c-1:x:p-3", "db", "c-1:x"⟩]

/-- A scope may resolve to a project of another cluster than its first part does: to one that is named
like the scope, to one with the scope as its ID if the cluster's ID has a colon, and to one with the
rest of the scope as its ID. -/
theorem resolveProject_elsewhere :
    Store.misleading.Reachable ∧ (∀ kind, Store.misleading.Unscripted kind) ∧
      (∀ id p, Store.misleading.get? .project id = some p → ∃ rest, p.id = joinScope p.clusterId rest) ∧
      (((Session.resolveCluster "c-1").run ({ client := .misleading } : Session Store)).1 = .ok "c-1" ∧
        ((Session.resolveProject "c-1:p-1").run ({ client := .misleading } : Session Store)).1 = .ok "c-2:p-9" ∧
        Store.misleading.get? .project "c-2:p-9" = some ⟨"c-2:p-9", "c-1:p-1", "c-2"⟩) ∧
      (((Session.resolveProject "c-1:x:p-3").run ({ client := .misleading } : Session Store)).1 = .ok "c-1:x:p-3" ∧
        Store.misleading.get? .project "c-1:x:p-3" = some ⟨"c-1:x:p-3", "db", "c-1:x"⟩) ∧
      ((Session.resolveCluster "prod").run ({ client := .misleading } : Session Store)).1 = .ok "c-1" ∧
        ((Session.resolveProject "prod:c-2:p-9").run ({ client := .misleading } : Session Store)).1 =
          .ok "c-2:p-9" := by
  refine ⟨Store.reachable_ofRecords, Store.unscripted_ofRecords, ?_, ⟨by cbv, by cbv, rfl⟩,
    ⟨by cbv, rfl⟩, by cbv, by cbv⟩
  refine Store.forall_project_ofRecords (List.forall_mem_cons.2 ⟨⟨"p-1", by decide⟩, ?_⟩)
  exact List.forall_mem_cons.2 ⟨⟨"p-9", by decide⟩, List.forall_mem_singleton.2 ⟨"p-3", by decide⟩⟩

end MultiCluster
