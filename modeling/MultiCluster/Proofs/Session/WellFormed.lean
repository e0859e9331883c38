/-
Well-formed directories: IDs have the form that tells clusters from projects, and no name is another
record's ID. There every ID stands for its own record (`clusterIdOf_id`, `projectIdOf_id`), although
names are tried first.
-/
import MultiCluster.Proofs.Scope
import MultiCluster.Proofs.Session.Resolution
import MultiCluster.Proofs.Store.Reachable
namespace MultiCluster.Store

/-- The clusters and projects of a well-formed directory: cluster IDs are not empty and have no colon;
a project's ID is that of a cluster, a colon and a rest that is not empty and has no colon; no record
is named like the ID of another one of its kind; and nothing is scripted. -/
structure WellFormed (s : Store) : Prop where
  clusterIds : ∀ id c, s.get? .cluster id = some c → c.id ≠ "" ∧ ':' ∉ c.id.toList
  projectIds : ∀ id p, s.get? .project id = some p → ∃ id' c rest, s.get? .cluster id' = some c ∧
    p.id = joinScope c.id rest ∧ rest ≠ "" ∧ ':' ∉ rest.toList
  clusterNames : ∀ id c, s.get? .cluster id = some c →
    ∀ id' c', s.get? .cluster id' = some c' → c.name = c'.id → c.id = c'.id
  projectNames : ∀ id p, s.get? .project id = some p →
    ∀ id' p', s.get? .project id' = some p' → p.name = p'.id → p.id = p'.id
  clusterScripts : s.Unscripted .cluster
  projectScripts : s.Unscripted .project

variable {s : Store}

/-- An ID stands for its record unless another record that passes the filters has it as its name. -/
theorem lookedUp_id {kind : Kind} {r : kind.Record} {filters : Dict String} (hk : s.Keyed)
    (hr : s.get? kind (kind.id r) = some r) (hne : kind.id r ≠ "")
    (hn : ∀ r', s.get? kind (kind.id r') = some r' →
      kind.matchesAll (filters.insert "name" (kind.id r)) r' = true → r' = r) :
    s.lookedUp kind (kind.id r) filters = .ok r := by
  by_cases hm : kind.matchesAll (filters.insert "name" (kind.id r)) r = true
  · exact lookedUp_of_unique hk hne hr hm hn
  · rw [lookedUp_of_unnamed hk hne fun r' hr' hm' => hm (hn r' hr' hm' ▸ hm'), hr]
    rfl

namespace WellFormed

theorem identified_cluster (hw : s.WellFormed) : s.Identified .cluster := fun id c h => (hw.clusterIds id c h).1

theorem identified_project (hw : s.WellFormed) : s.Identified .project := fun id p h => by
  obtain ⟨_, c, rest, -, hid, -⟩ := hw.projectIds id p h
  show p.id ≠ ""
  rw [hid]
  exact joinScope_ne_empty _ _

theorem colon_mem_projectId (hw : s.WellFormed) {id : String} {p : Project} (h : s.get? .project id = some p) :
    ':' ∈ p.id.toList := by
  obtain ⟨_, c, rest, -, hid, -⟩ := hw.projectIds id p h
  rw [hid]
  exact colon_mem_joinScope _ _

/-- A cluster's ID stands for the cluster. -/
theorem clusterIdOf_id (hw : s.WellFormed) (hk : s.Keyed) {id : String} {c : Cluster}
    (h : s.get? .cluster id = some c) :
    s.clusterIdOf c.id = .ok c.id := by
  have hc : s.get? .cluster c.id = some c := hk.get?_id h
  have hl : s.lookedUp .cluster c.id ∅ = .ok c := lookedUp_id hk hc (hw.clusterIds id c h).1 fun c' hc' hm =>
    hk.eq_of_id hc' hc (hw.clusterNames _ c' hc' _ c hc (Kind.matchesAll_cluster_name.1 hm))
  rw [clusterIdOf, hl]
  rfl

/-- A project's ID stands for the project: its cluster part comes back as it is, so the whole is looked
up. -/
theorem projectIdOf_id (hw : s.WellFormed) (hk : s.Keyed) {id : String} {p : Project}
    (h : s.get? .project id = some p) :
    s.projectIdOf p.id = .ok p.id := by
  have hp : s.get? .project p.id = some p := hk.get?_id h
  obtain ⟨id', c, rest, hc, hid, -⟩ := hw.projectIds id p h
  have hsplit : splitScope p.id = (c.id, rest) := by rw [hid, splitScope_joinScope (hw.clusterIds id' c hc).2]
  have hl : s.lookedUp .project p.id ∅ = .ok p := lookedUp_id hk hp (hw.identified_project id p h) fun p' hp' hm =>
    hk.eq_of_id hp' hp (hw.projectNames _ p' hp' _ p hp (Kind.matchesAll_project_name.1 hm))
  have hin : s.projectIn p.id c.id = .ok p := by rw [projectIn, if_pos (by rw [hsplit]), hl]
  rw [projectIdOf, hsplit, hw.clusterIdOf_id hk hc]
  show (s.projectIn p.id c.id).map Project.id = _
  rw [hin]
  rfl

/-- Well-formedness is a matter of the clusters and projects. -/
theorem congr {t : Store} (hw : s.WellFormed) (h : s.SameDirectory t) : t.WellFormed := by
  have hcluster : ∀ id, t.get? .cluster id = s.get? .cluster id := get?_congr h.clusters
  have hproject : ∀ id, t.get? .project id = s.get? .project id := get?_congr h.projects
  refine ⟨?_, ?_, ?_, ?_, h.clusterScripts, h.projectScripts⟩ <;> simp only [hcluster, hproject]
  · exact hw.clusterIds
  · exact hw.projectIds
  · exact hw.clusterNames
  · exact hw.projectNames

/-- Well-formedness of a store that is set up from records. -/
theorem ofRecords {clusters : List Cluster} {projects : List Project}
    (hc : ∀ c ∈ clusters, c.id ≠ "" ∧ ':' ∉ c.id.toList)
    (hp : ∀ p ∈ projects, ∃ c ∈ clusters, ∃ rest, p.id = joinScope c.id rest ∧ rest ≠ "" ∧ ':' ∉ rest.toList)
    (hcn : ∀ c ∈ clusters, ∀ c' ∈ clusters, c.name = c'.id → c.id = c'.id)
    (hpn : ∀ p ∈ projects, ∀ p' ∈ projects, p.name = p'.id → p.id = p'.id) :
    (Store.ofRecords clusters projects).WellFormed where
  clusterIds := forall_cluster_ofRecords hc
  projectIds := forall_project_ofRecords fun p hm => by
    obtain ⟨c, hcm, rest, hid, hrest⟩ := hp p hm
    obtain ⟨id', c', hg, he⟩ :
        ∃ id' c', (Store.ofRecords clusters projects).get? .cluster id' = some c' ∧ c'.id = c.id :=
      exists_cluster_ofRecords hcm
    exact ⟨id', c', rest, hg, by rw [hid, he], hrest⟩
  clusterNames := forall_cluster_ofRecords fun c hm => forall_cluster_ofRecords (hcn c hm)
  projectNames := forall_project_ofRecords fun p hm => forall_project_ofRecords (hpn p hm)
  clusterScripts := unscripted_ofRecords _
  projectScripts := unscripted_ofRecords _

theorem prodWeb : prodWeb.WellFormed :=
  ofRecords (by decide)
    (List.forall_mem_singleton.2 ⟨_, List.mem_singleton.2 rfl, "p-1", by decide, by decide, by decide⟩)
    (by decide) (by decide)

end WellFormed

end MultiCluster.Store
