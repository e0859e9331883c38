/-
Names of targets, shown and read back. A directory that is loaded holds the records as they are
(`run_load`). A target is shown by the names of its cluster and its project, and read back by looking
for the cluster first; one whose name is its own ID comes back as it is, and then the whole text is
taken for a project's ID or name. So what is shown reads back unless the cluster is named like its
ID (`resolveProject_readableName`).
-/
import MultiCluster.Directory
import MultiCluster.Proofs.Except
import MultiCluster.Proofs.Session.WellFormed
import Mathlib
namespace MultiCluster

/-! ## Loading -/

namespace Directory

theorem found_all (s : Store) (kind : Kind) : s.found kind ∅ = (s.records.get kind).values :=
  List.filter_eq_self.2 fun _ _ => Kind.matchesAll_iff.2 fun f v h => by cases h

/-- Records that lie under their IDs are found under them again. -/
theorem ofList_values {s : Store} (hk : s.Keyed) (kind : Kind) :
    Dict.ofList ((s.records.get kind).values.map fun r => (kind.id r, r)) = s.records.get kind := by
  have hmem : ∀ {id r}, (id, r) ∈ ((s.records.get kind).values.map fun r => (kind.id r, r)) ↔
      s.get? kind id = some r := by
    intro id r
    simp only [Dict.values, List.mem_map, Prod.mk.injEq, Prod.exists]
    constructor
    · rintro ⟨r', ⟨id', r'', he, rfl⟩, rfl, rfl⟩
      exact hk.get?_id (Dict.get?_eq_some_iff.2 he)
    · intro h
      exact ⟨r, ⟨id, r, Dict.get?_eq_some_iff.1 h, rfl⟩, hk kind id r h, rfl⟩
  refine Dict.ext_get? fun id => Option.ext fun r => ⟨fun h => ?_, fun h => ?_⟩
  · rcases Dict.mem_of_get?_insertMany h with hm | hm
    · exact hmem.1 hm
    · cases hm
  · refine Dict.get?_insertMany_of_mem (hmem.2 h) fun r' hr' => ?_
    exact Option.some.inj ((hmem.1 hr').symm.trans h)

/-- Nothing but pages is touched where the directory of a store is loaded. -/
theorem run_load_pagesOnly {s : Store} (hk : s.Keyed) :
    ∃ t, (load : Attempt Fault Store Directory).run s =
      (.ok ⟨s.records.get .cluster, s.records.get .project⟩, t) ∧ s.PagesOnly t := by
  obtain ⟨t, ht, hst⟩ := Store.run_listAll .cluster ∅ s
  obtain ⟨u, hu, htu⟩ := Store.run_listAll .project ∅ t
  refine ⟨u, ?_, hst.trans htu⟩
  unfold load
  rw [Attempt.run_bind_ok ht, Attempt.run_bind_ok hu, Store.found_congr (congrArg (·.get .project) hst.kept.records),
    found_all, found_all, Attempt.run_pure]
  have hd : ofRecords (s.records.get .cluster).values (s.records.get .project).values =
      ⟨s.records.get .cluster, s.records.get .project⟩ :=
    congr (congrArg Directory.mk (ofList_values hk .cluster)) (ofList_values hk .project)
  rw [hd]

/-- The directory of a store. -/
theorem run_load {s : Store} (hk : s.Keyed) :
    ∃ t, (load : Attempt Fault Store Directory).run s =
      (.ok ⟨s.records.get .cluster, s.records.get .project⟩, t) ∧ s.Kept t := by
  obtain ⟨t, ht, hst⟩ := run_load_pagesOnly hk
  exact ⟨t, ht, hst.kept⟩

end Directory

/-! ## Reading back -/

namespace Store

/-- The directories whose targets have readable names: cluster IDs have no colon; clusters have names
of their own, not empty and without a colon; projects have names that are not empty and their own
within the cluster; a project's ID begins with its cluster's and a colon; and nothing is scripted. -/
structure Readable (s : Store) : Prop where
  clusterIds : ∀ id c, s.get? .cluster id = some c → ':' ∉ c.id.toList
  clusterNames : ∀ id c, s.get? .cluster id = some c → c.name ≠ "" ∧ ':' ∉ c.name.toList
  clustersApart : ∀ id c, s.get? .cluster id = some c →
    ∀ id' c', s.get? .cluster id' = some c' → c.name = c'.name → c.id = c'.id
  projectNames : ∀ id p, s.get? .project id = some p → p.name ≠ ""
  projectsApart : ∀ id p, s.get? .project id = some p →
    ∀ id' p', s.get? .project id' = some p' → p.clusterId = p'.clusterId → p.name = p'.name → p.id = p'.id
  projectIds : ∀ id p, s.get? .project id = some p → ∃ rest, p.id = joinScope p.clusterId rest
  clusterScripts : s.Unscripted .cluster
  projectScripts : s.Unscripted .project

variable {s : Store} (hd : s.Readable) (hk : s.Keyed) {c : Cluster} {p : Project}
include hd hk

/-- A cluster is found by its name. -/
theorem Readable.clusterIdOf_name (hc : s.get? .cluster c.id = some c) : s.clusterIdOf c.name = .ok c.id := by
  have hl : s.lookedUp .cluster c.name ∅ = .ok c :=
    lookedUp_of_unique hk (hd.clusterNames _ c hc).1 hc (Kind.matchesAll_cluster_name.2 rfl) fun c' hc' hm =>
      hk.eq_of_id hc' hc (hd.clustersApart _ c' hc' _ c hc (Kind.matchesAll_cluster_name.1 hm))
  rw [clusterIdOf, hl]
  rfl

/-- A project is found by its name in its cluster. -/
theorem Readable.lookedUp_project_name (hp : s.get? .project p.id = some p) :
    s.lookedUp .project p.name (Dict.empty.insert "clusterId" p.clusterId) = .ok p :=
  lookedUp_of_unique hk (hd.projectNames _ p hp) hp (Kind.matchesAll_project_in.2 ⟨rfl, rfl⟩) fun p' hp' hm => by
    obtain ⟨hn, hcl⟩ := Kind.matchesAll_project_in.1 hm
    exact hk.eq_of_id hp' hp (hd.projectsApart _ p' hp' _ p hp hcl hn)

/-- The names of a project and its cluster stand for the project unless the cluster is named like its
ID; then they do if they are the project's ID and no project's name. -/
theorem Readable.projectIdOf_names (hp : s.get? .project p.id = some p) (hc : s.get? .cluster p.clusterId = some c) :
    s.projectIdOf (joinScope c.name p.name) = .ok p.id ↔ c.name ≠ c.id ∨ joinScope c.name p.name = p.id ∧
      ∀ id q, s.get? .project id = some q → q.name ≠ joinScope c.name p.name := by
  have hcid : c.id = p.clusterId := hk .cluster _ c hc
  have hsplit := splitScope_joinScope (hd.clusterNames _ c hc).2 p.name
  have hid : s.projectIdOf (joinScope c.name p.name) = (s.projectIn (joinScope c.name p.name) c.id).map Project.id := by
    rw [projectIdOf, hsplit, hd.clusterIdOf_name hk (hk.get?_id hc)]
    rfl
  rw [hid, projectIn, hsplit]
  dsimp only
  split
  · rename_i hname
    constructor
    · intro h
      obtain ⟨p', hl, hid'⟩ := map_eq_ok h
      obtain ⟨-, hp', hfound⟩ := lookedUp_eq_ok hk hl
      obtain rfl : p' = p := hk.eq_of_id hp' hp hid'
      rcases hfound with hone | ⟨htext, hnone⟩
      · -- no text is longer than itself
        have hlong : p'.name = joinScope c.name p'.name := Kind.matchesAll_project_name.1 ((hone p' hp').2 rfl)
        have := congrArg (fun t : String => t.toList.length) hlong
        simp only [toList_joinScope, List.length_append, List.length_cons] at this
        omega
      · exact .inr ⟨htext.symm, fun id q hq hn => hnone q (hk.get?_id hq) (Kind.matchesAll_project_name.2 hn)⟩
    · rintro (hne | ⟨htext, hnone⟩)
      · exact absurd hname.symm hne
      · rw [lookedUp_of_unnamed hk (joinScope_ne_empty _ _) fun q hq hm =>
          hnone _ q hq (Kind.matchesAll_project_name.1 hm), htext, hp]
        rfl
  · rename_i hname
    refine iff_of_true ?_ (.inl (Ne.symm hname))
    rw [hcid, hd.lookedUp_project_name hk hp]
    rfl

end Store

/-- What a loaded directory shows for a target whose cluster and project exist resolves to the target
exactly where the cluster's name is not its ID, or the text shown is the project's ID and no project's
name. -/
theorem resolveProject_readableName {s : Store} (hr : s.Reachable) (hd : s.Readable) {c : Cluster} {p : Project}
    {target : Target} (hp : s.get? .project target.projectId = some p) (hc : s.get? .cluster p.clusterId = some c) :
    ∃ d t, (Directory.load : Attempt Fault Store Directory).run s = (.ok d, t) ∧ s.Kept t ∧
      ∀ u, s.Kept u →
        (((Session.resolveProject (d.readableName target)).run ({ client := u } : Session Store)).1 =
          .ok target.projectId ↔
          c.name ≠ c.id ∨ d.readableName target = target.projectId ∧
            ∀ id q, s.get? .project id = some q → q.name ≠ d.readableName target) := by
  have hk := hr.keyed
  have hpid : p.id = target.projectId := hk .project _ p hp
  obtain ⟨t, ht, hst⟩ := Directory.run_load hk
  refine ⟨_, t, ht, hst, fun u hu => ?_⟩
  have hshown : Directory.readableName ⟨s.records.get .cluster, s.records.get .project⟩ target =
      joinScope c.name p.name := by
    obtain ⟨rest, hrest⟩ := hd.projectIds _ p hp
    have hcolon : ':' ∉ p.clusterId.toList := by
      rw [← hk .cluster _ c hc]
      exact hd.clusterIds _ c hc
    have hgetc : (s.records.get .cluster).get? (splitScope target.projectId).1 = some c := by
      rw [← hpid, hrest, splitScope_joinScope hcolon]
      exact hc
    have hgetp : (s.records.get .project).get? target.projectId = some p := hp
    simp only [Directory.readableName, hgetc, hgetp]
  have hsame : s.SameDirectory u := (Store.SameDirectory.refl hd.clusterScripts hd.projectScripts).kept hu
  obtain ⟨t', ht', -⟩ := Session.run_resolveProject (Session.sound_fresh hsame) (joinScope c.name p.name)
  rw [hshown, ht', ← hpid]
  exact hd.projectIdOf_names hk (hk.get?_id hp) hc

/-- Readable names of a store that is set up from records. -/
theorem Store.Readable.ofRecords {clusters : List Cluster} {projects : List Project}
    (hc : ∀ c ∈ clusters, ':' ∉ c.id.toList) (hcn : ∀ c ∈ clusters, c.name ≠ "" ∧ ':' ∉ c.name.toList)
    (hca : ∀ c ∈ clusters, ∀ c' ∈ clusters, c.name = c'.name → c.id = c'.id) (hpn : ∀ p ∈ projects, p.name ≠ "")
    (hpa : ∀ p ∈ projects, ∀ p' ∈ projects, p.clusterId = p'.clusterId → p.name = p'.name → p.id = p'.id)
    (hp : ∀ p ∈ projects, ∃ rest, p.id = joinScope p.clusterId rest) :
    (Store.ofRecords clusters projects).Readable where
  clusterIds := forall_cluster_ofRecords hc
  clusterNames := forall_cluster_ofRecords hcn
  clustersApart := forall_cluster_ofRecords fun c hm => forall_cluster_ofRecords (hca c hm)
  projectNames := forall_project_ofRecords hpn
  projectsApart := forall_project_ofRecords fun p hm => forall_project_ofRecords (hpa p hm)
  projectIds := forall_project_ofRecords hp
  clusterScripts := unscripted_ofRecords _
  projectScripts := unscripted_ofRecords _

/-- The project of a cluster that has a name of its own. -/
theorem resolveProject_readableName_prodWeb :
    ∃ d t, (Directory.load : Attempt Fault Store Directory).run .prodWeb = (.ok d, t) ∧
      ((Session.resolveProject (d.readableName { projectId := "c-1:p-1" })).run ({ client := t } : Session Store)).1 =
        .ok "c-1:p-1" := by
  have hd : Store.prodWeb.Readable := .ofRecords (by decide) (by decide) (by decide) (by decide) (by decide)
    (List.forall_mem_singleton.2 ⟨"p-1", by decide⟩)
  have hp : Store.prodWeb.get? .project "c-1:p-1" = some ⟨"c-1:p-1", "web", "c-1"⟩ := rfl
  have hc : Store.prodWeb.get? .cluster "c-1" = some ⟨"c-1", "prod"⟩ := rfl
  obtain ⟨d, t, ht, hst, h⟩ :=
    @resolveProject_readableName .prodWeb Store.reachable_ofRecords hd _ _ { projectId := "c-1:p-1" } hp hc
  exact ⟨d, t, ht, (h t hst).2 (.inl (by decide))⟩

/-- One cluster that is named like its ID, with one project in it. -/
def Store.selfNamed : Store := ofRecords [⟨"c-1", "c-1"⟩] [⟨"c-1:p-1", "web", "c-1"⟩]

/-- The project of a cluster that is named like its ID is not found by the names that are shown. -/
theorem readableName_selfNamed :
    Store.selfNamed.Reachable ∧ Store.selfNamed.Readable ∧
      Store.selfNamed.get? .project "c-1:p-1" = some ⟨"c-1:p-1", "web", "c-1"⟩ ∧
      Store.selfNamed.get? .cluster "c-1" = some ⟨"c-1", "c-1"⟩ ∧
      ∃ d t, (Directory.load : Attempt Fault Store Directory).run .selfNamed = (.ok d, t) ∧
        d.readableName { projectId := "c-1:p-1" } = "c-1:web" ∧
        ((Session.resolveProject "c-1:web").run ({ client := t } : Session Store)).1 =
          .error (.notFound .project "c-1:web") :=
  ⟨Store.reachable_ofRecords, .ofRecords (by decide) (by decide) (by decide) (by decide) (by decide)
    (List.forall_mem_singleton.2 ⟨"p-1", by decide⟩), rfl, rfl, _, _, Prod.ext (by cbv) rfl, by cbv, by cbv⟩

end MultiCluster
