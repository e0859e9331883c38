/-
What sessions find on a store: the ID that a cluster reference, a project scope or a list of targets
stands for is decided by the cluster and project records alone (`Store.clusterIdOf`,
`Store.projectIdOf`), but for what the session remembers (`Session.clusterIdOf`, `Session.projectIdOf`).
Resolving moves an ID from the records to the memory, and so does not change what is found (`Resumes`). What
a session remembers makes no difference where it was found on the same records (`Sound`).
-/
import MultiCluster.Proofs.Except
import MultiCluster.Proofs.Session.Reading
import MultiCluster.Proofs.Store.Matching
namespace MultiCluster

/-! ## References, read off the records -/

namespace Store

/-- The ID of the cluster that a reference stands for. -/
def clusterIdOf (s : Store) (reference : String) : Except Fault String :=
  (s.lookedUp .cluster reference ∅).map Cluster.id

/-- The project that a scope stands for, its cluster part standing for `clusterId`. -/
def projectIn (s : Store) (scope clusterId : String) : Except Fault Project :=
  if clusterId = (splitScope scope).1 then s.lookedUp .project scope ∅
  else s.lookedUp .project (splitScope scope).2 (Dict.empty.insert "clusterId" clusterId)

/-- The ID of the project that a scope stands for. -/
def projectIdOf (s : Store) (scope : String) : Except Fault String := do
  let clusterId ← s.clusterIdOf (splitScope scope).1
  (s.projectIn scope clusterId).map Project.id

theorem clusterIdOf_congr {s t : Store} (h : t.records.get .cluster = s.records.get .cluster) (reference : String) :
    t.clusterIdOf reference = s.clusterIdOf reference := by
  rw [clusterIdOf, clusterIdOf, lookedUp_congr h]

theorem projectIn_congr {s t : Store} (h : t.records.get .project = s.records.get .project) (scope clusterId : String) :
    t.projectIn scope clusterId = s.projectIn scope clusterId := by
  rw [projectIn, projectIn, lookedUp_congr h, lookedUp_congr h]

section Found

variable {s : Store}

/-- The ID of a cluster that was found is that of a record. -/
theorem exists_cluster_of_clusterIdOf {reference id : String} (h : s.clusterIdOf reference = .ok id) :
    ∃ id' c, s.get? .cluster id' = some c ∧ c.id = id := by
  obtain ⟨c, hl, rfl⟩ := map_eq_ok h
  obtain ⟨id', hg⟩ := exists_get?_of_lookedUp hl
  exact ⟨id', c, hg, rfl⟩

theorem projectIdOf_eq_ok {scope id : String} (h : s.projectIdOf scope = .ok id) :
    ∃ c p, s.clusterIdOf (splitScope scope).1 = .ok c ∧ s.projectIn scope c = .ok p ∧ p.id = id := by
  obtain ⟨c, hc, h⟩ := bind_eq_ok h
  obtain ⟨p, hp, rfl⟩ := map_eq_ok h
  exact ⟨c, p, hc, hp, rfl⟩

/-- The ID of a project that was found is that of a record. -/
theorem exists_project_of_projectIdOf {scope id : String} (h : s.projectIdOf scope = .ok id) :
    ∃ id' p, s.get? .project id' = some p ∧ p.id = id := by
  obtain ⟨c, p, -, hp, rfl⟩ := projectIdOf_eq_ok h
  unfold projectIn at hp
  split at hp <;>
  · obtain ⟨id', hg⟩ := exists_get?_of_lookedUp hp
    exact ⟨id', p, hg, rfl⟩

end Found

/-- The same clusters and projects, and no scripts for either. -/
structure SameDirectory (s t : Store) : Prop where
  clusters : t.records.get .cluster = s.records.get .cluster
  projects : t.records.get .project = s.records.get .project
  clusterScripts : t.Unscripted .cluster
  projectScripts : t.Unscripted .project

namespace SameDirectory

variable {s t u : Store}

theorem refl (hc : s.Unscripted .cluster) (hp : s.Unscripted .project) : s.SameDirectory s := ⟨rfl, rfl, hc, hp⟩

theorem kept (h : s.SameDirectory t) (hk : t.Kept u) : s.SameDirectory u :=
  ⟨by rw [hk.records, h.clusters], by rw [hk.records, h.projects], hk.unscripted _ h.clusterScripts,
    hk.unscripted _ h.projectScripts⟩

theorem clusterIdOf_eq (h : s.SameDirectory t) (reference : String) :
    t.clusterIdOf reference = s.clusterIdOf reference :=
  clusterIdOf_congr h.clusters reference

theorem projectIn_eq (h : s.SameDirectory t) (scope clusterId : String) :
    t.projectIn scope clusterId = s.projectIn scope clusterId :=
  projectIn_congr h.projects scope clusterId

end SameDirectory

end Store

/-! ## Sessions that remember -/

namespace Session

/-- The ID that a session finds for a cluster reference: the one it remembers, or else that of the records. -/
def clusterIdOf (t : Session Store) (reference : String) : Except Fault String :=
  match t.clusterIds.get? reference with
  | some id => .ok id
  | none => t.client.clusterIdOf reference

/-- The ID that a session finds for a project scope. -/
def projectIdOf (t : Session Store) (scope : String) : Except Fault String :=
  match t.projectIds.get? scope with
  | some id => .ok id
  | none => do
    let clusterId ← t.clusterIdOf (splitScope scope).1
    (t.client.projectIn scope clusterId).map Project.id

/-- The later session, on a store that was only read in between, finds what the earlier one does. -/
structure Resumes (t t' : Session Store) : Prop where
  kept : t.client.Kept t'.client
  clusters : ∀ reference, t'.clusterIdOf reference = t.clusterIdOf reference
  projects : ∀ scope, t'.projectIdOf scope = t.projectIdOf scope

section Memory

variable {t t' t'' : Session Store}

theorem clusterIdOf_of_remembered {reference id : String} (h : t.clusterIds.get? reference = some id) :
    t.clusterIdOf reference = .ok id := by
  rw [clusterIdOf, h]

theorem projectIdOf_of_remembered {scope id : String} (h : t.projectIds.get? scope = some id) :
    t.projectIdOf scope = .ok id := by
  rw [projectIdOf, h]

namespace Resumes

theorem refl (t : Session Store) : t.Resumes t := ⟨.refl _, fun _ => rfl, fun _ => rfl⟩

theorem trans (h : t.Resumes t') (h' : t'.Resumes t'') : t.Resumes t'' :=
  ⟨h.kept.trans h'.kept, fun r => (h'.clusters r).trans (h.clusters r), fun r => (h'.projects r).trans (h.projects r)⟩

/-- Projects are found alike where clusters are. -/
theorem of_clusters (hk : t.client.Kept t'.client)
    (hc : ∀ reference, t'.clusterIdOf reference = t.clusterIdOf reference) (hp : t'.projectIds = t.projectIds) :
    t.Resumes t' where
  kept := hk
  clusters := hc
  projects scope := by
    have hrecords : t'.client.records.get .project = t.client.records.get .project := by rw [hk.records]
    rw [projectIdOf, projectIdOf, hp, hc]
    simp only [Store.projectIn_congr hrecords]

theorem of_kept {u : Store} (hk : t.client.Kept u) : t.Resumes { t with client := u } := by
  refine of_clusters hk (fun reference => ?_) rfl
  have hrecords : u.records.get .cluster = t.client.records.get .cluster := by rw [hk.records]
  rw [clusterIdOf, clusterIdOf, Store.clusterIdOf_congr hrecords]

/-- Remembering what is found. -/
theorem rememberCluster {reference id : String} (h : t.clusterIdOf reference = .ok id) :
    t.Resumes { t with clusterIds := t.clusterIds.insert reference id } := by
  refine of_clusters (.refl _) (fun reference' => ?_) rfl
  by_cases he : reference = reference'
  · subst he
    rw [h]
    exact clusterIdOf_of_remembered (Dict.get?_insert_self ..)
  · rw [clusterIdOf, Dict.get?_insert, if_neg he]
    rfl

theorem rememberProject {scope id : String} (h : t.projectIdOf scope = .ok id) :
    t.Resumes { t with projectIds := t.projectIds.insert scope id } := by
  refine ⟨.refl _, fun _ => rfl, fun scope' => ?_⟩
  by_cases he : scope = scope'
  · subst he
    rw [h]
    exact projectIdOf_of_remembered (Dict.get?_insert_self ..)
  · rw [projectIdOf, Dict.get?_insert, if_neg he]
    rfl

end Resumes

theorem run_lookup (kind : Kind) (reference : String) (filters : Dict String)
    (h : t.client.scriptOf kind reference = []) :
    ∃ u, (Client.lookup kind reference filters).run t =
      (t.client.lookedUp kind reference filters, { t with client := u }) ∧
      t.client.Kept u := by
  obtain ⟨u, hu, hk⟩ := Store.run_lookup h filters
  exact ⟨u, by rw [lookup_eq_onClient, run_onClient, hu], hk⟩

/-- Resolving a cluster gives the ID that the session finds, and the session goes on to find the same. -/
theorem resumes_resolveCluster (hc : t.client.Unscripted .cluster) (reference : String) :
    ∃ t', (resolveCluster reference).run t = (t.clusterIdOf reference, t') ∧ t.Resumes t' := by
  unfold resolveCluster
  rw [Attempt.run_bind_ok (Attempt.run_get t)]
  cases hm : t.clusterIds.get? reference with
  | some id => exact ⟨t, by rw [clusterIdOf_of_remembered hm]; rfl, .refl t⟩
  | none =>
    obtain ⟨u, hu, hk⟩ := run_lookup .cluster reference ∅ (hc reference)
    have hfound : t.clusterIdOf reference = (t.client.lookedUp .cluster reference ∅).map Cluster.id := by
      rw [clusterIdOf, hm]
      rfl
    have hresumes := Resumes.of_kept hk
    rw [hfound]
    rcases hl : t.client.lookedUp .cluster reference ∅ with e | c <;> rw [hl] at hu hfound
    · exact ⟨_, Attempt.run_bind_error hu, hresumes⟩
    · exact ⟨_, Attempt.run_bind_ok hu, hresumes.trans (.rememberCluster ((hresumes.clusters reference).trans hfound))⟩

theorem run_findProject (hp : t.client.Unscripted .project) (scope clusterId : String) :
    ∃ u, (findProject scope clusterId).run t = (t.client.projectIn scope clusterId, { t with client := u }) ∧
      t.client.Kept u := by
  unfold findProject Store.projectIn
  split
  · exact run_lookup .project scope ∅ (hp scope)
  · exact run_lookup .project _ _ (hp _)

theorem resumes_resolveProject (hc : t.client.Unscripted .cluster) (hp : t.client.Unscripted .project)
    (scope : String) :
    ∃ t', (resolveProject scope).run t = (t.projectIdOf scope, t') ∧ t.Resumes t' := by
  unfold resolveProject
  rw [Attempt.run_bind_ok (Attempt.run_get t)]
  cases hm : t.projectIds.get? scope with
  | some id => exact ⟨t, by rw [projectIdOf_of_remembered hm]; rfl, .refl t⟩
  | none =>
    dsimp only
    obtain ⟨t₁, h₁, hr₁⟩ := resumes_resolveCluster hc (splitScope scope).1
    have hid : t.projectIdOf scope =
        t.clusterIdOf (splitScope scope).1 >>= fun c => (t.client.projectIn scope c).map Project.id := by
      rw [projectIdOf, hm]
    rcases hcluster : t.clusterIdOf (splitScope scope).1 with e | c <;> rw [hcluster] at h₁ hid
    · exact ⟨t₁, by rw [Attempt.run_bind_error h₁, hid]; rfl, hr₁⟩
    obtain ⟨u, h₂, hk₂⟩ := run_findProject (hr₁.kept.unscripted _ hp) scope c
    have hrecords : t₁.client.records.get .project = t.client.records.get .project := by rw [hr₁.kept.records]
    have hr₂ := hr₁.trans (.of_kept hk₂)
    have hid' : t.projectIdOf scope = (t.client.projectIn scope c).map Project.id := hid
    rw [Attempt.run_bind_ok h₁]
    rw [Store.projectIn_congr hrecords] at h₂
    rcases hproject : t.client.projectIn scope c with e | p <;> rw [hproject] at h₂ hid'
    · exact ⟨_, by rw [Attempt.run_bind_error h₂, hid']; rfl, hr₂⟩
    · exact ⟨_, by rw [Attempt.run_bind_ok h₂, hid']; rfl,
        hr₂.trans (.rememberProject ((hr₂.projects scope).trans hid'))⟩

end Memory

/-! ## Sessions that remember what there is -/

/-- A session on the clusters and projects of `s`, whose memory agrees with them. -/
structure Sound (s : Store) (t : Session Store) : Prop where
  directory : s.SameDirectory t.client
  clusters : ∀ reference id, t.clusterIds.get? reference = some id → s.clusterIdOf reference = .ok id
  projects : ∀ scope id, t.projectIds.get? scope = some id → s.projectIdOf scope = .ok id

variable {s : Store} {t t' : Session Store}

/-- A session that remembers nothing is sound. -/
theorem sound_fresh {u : Store} (h : s.SameDirectory u) : Sound s { client := u } where
  directory := h
  clusters _ _ h := by cases h
  projects _ _ h := by cases h

namespace Sound

/-- Reading leaves a session sound. -/
theorem kept (h : Sound s t) {u : Store} (hk : t.client.Kept u) : Sound s { t with client := u } :=
  ⟨h.directory.kept hk, h.clusters, h.projects⟩

/-- A sound session finds what the records say. -/
theorem clusterIdOf_eq (h : Sound s t) (reference : String) : t.clusterIdOf reference = s.clusterIdOf reference := by
  unfold Session.clusterIdOf
  cases hm : t.clusterIds.get? reference with
  | some id => exact (h.clusters reference id hm).symm
  | none => exact h.directory.clusterIdOf_eq reference

theorem projectIdOf_eq (h : Sound s t) (scope : String) : t.projectIdOf scope = s.projectIdOf scope := by
  unfold Session.projectIdOf Store.projectIdOf
  cases hm : t.projectIds.get? scope with
  | some id => exact (h.projects scope id hm).symm
  | none =>
    dsimp only
    rw [h.clusterIdOf_eq]
    simp only [h.directory.projectIn_eq]

/-- What goes on to find the same goes on to be sound. -/
theorem resumes (h : Sound s t) (hr : t.Resumes t') : Sound s t' where
  directory := h.directory.kept hr.kept
  clusters reference id hm := by
    rw [← h.clusterIdOf_eq, ← hr.clusters]
    exact clusterIdOf_of_remembered hm
  projects scope id hm := by
    rw [← h.projectIdOf_eq, ← hr.projects]
    exact projectIdOf_of_remembered hm

end Sound

theorem run_resolveCluster (h : Sound s t) (reference : String) :
    ∃ t', (resolveCluster reference).run t = (s.clusterIdOf reference, t') ∧ Sound s t' ∧ t.client.Kept t'.client := by
  obtain ⟨t', ht, hr⟩ := resumes_resolveCluster h.directory.clusterScripts reference
  exact ⟨t', by rw [ht, h.clusterIdOf_eq], h.resumes hr, hr.kept⟩

theorem run_resolveProject (h : Sound s t) (scope : String) :
    ∃ t', (resolveProject scope).run t = (s.projectIdOf scope, t') ∧ Sound s t' ∧ t.client.Kept t'.client := by
  obtain ⟨t', ht, hr⟩ := resumes_resolveProject h.directory.clusterScripts h.directory.projectScripts scope
  exact ⟨t', by rw [ht, h.projectIdOf_eq], h.resumes hr, hr.kept⟩

theorem run_resolveTargets (h : Sound s t) (specifiers : List String) :
    ∃ t', (resolveTargets specifiers).run t = (specifiers.mapM s.projectIdOf, t') ∧ Sound s t' ∧
      t.client.Kept t'.client := by
  induction specifiers generalizing t with
  | nil => exact ⟨t, rfl, h, .refl _⟩
  | cons r rest ih =>
    obtain ⟨t₁, h₁, hs₁, hk₁⟩ := run_resolveProject h r
    obtain ⟨t₂, h₂, hs₂, hk₂⟩ := ih hs₁
    rw [resolveTargets, List.mapM_cons]
    rcases hr : s.projectIdOf r with e | id <;> rw [hr] at h₁
    · exact ⟨t₁, by rw [Attempt.run_bind_error h₁]; rfl, hs₁, hk₁⟩
    · rw [Attempt.run_bind_ok h₁]
      rcases hm : rest.mapM s.projectIdOf with e | ids <;> rw [hm] at h₂
      · exact ⟨t₂, by rw [Attempt.run_bind_error h₂]; rfl, hs₂, hk₁.trans hk₂⟩
      · exact ⟨t₂, by rw [Attempt.run_bind_ok h₂]; rfl, hs₂, hk₁.trans hk₂⟩

end Session

end MultiCluster
