/-
Names of scopes on a well-formed directory. A scope has at most one spelling by names: a cluster is
spelled by its name, a project by its own name if that holds the colon, and by the names of its
cluster and its own if not (`scope_unique`). So a map has at most one entry for a key in a scope that
names the scope, and it is the one that stands (`Named.stands`).
-/
import MultiCluster.Proofs.Answers.Reconciliation
import MultiCluster.Proofs.Session.Containment
import MultiCluster.Proofs.Session.WellFormed
namespace MultiCluster

namespace Store

variable {s : Store} {id : String} (hk : s.Keyed)
include hk

/-- A reference that is not the ID is the name of the cluster. -/
theorem name_of_clusterIdOf {reference : String} (h : s.clusterIdOf reference = .ok id) (hne : reference ≠ id) :
    ∃ c, s.get? .cluster id = some c ∧ c.name = reference := by
  obtain ⟨c, hl, rfl⟩ := map_eq_ok h
  obtain ⟨-, hc, hname | ⟨hid, -⟩⟩ := lookedUp_eq_ok hk hl
  · exact ⟨c, hc, Kind.matchesAll_cluster_name.1 ((hname c hc).2 rfl)⟩
  · exact absurd hid.symm hne

/-- A scope that is not the ID is the name of the project, or made of the names of its cluster and
itself. -/
theorem names_of_projectIdOf (hw : s.WellFormed) {a b : String} (ha : ':' ∉ a.toList) (hb : ':' ∉ b.toList)
    (h : s.projectIdOf (joinScope a b) = .ok id) (hne : joinScope a b ≠ id) :
    ∃ p, s.get? .project id = some p ∧ (p.name = joinScope a b ∨
      p.name = b ∧ ∃ c, s.get? .cluster p.clusterId = some c ∧ c.name = a) := by
  obtain ⟨cid, p, hc, hp, rfl⟩ := projectIdOf_eq_ok h
  obtain ⟨hstored, hfinds⟩ := finds_of_projectIn hk hp
  have hsplit : splitScope (joinScope a b) = (a, b) := splitScope_joinScope ha b
  rw [hsplit] at hc
  refine ⟨p, hstored, ?_⟩
  cases hfinds with
  | byWholeName _ hname => exact .inl hname
  | byWholeId _ hid _ => exact absurd hid.symm hne
  | byName hpart hname hcluster =>
    rw [hsplit] at hpart hname
    obtain rfl := hcluster
    exact .inr ⟨hname, name_of_clusterIdOf hk hc (Ne.symm hpart)⟩
  | byId _ hid _ =>
    have hrest : p.id = b := by rw [hid, hsplit]
    exact absurd (hrest ▸ hw.colon_mem_projectId hstored) hb

/-- What spells a scope by names is determined by the ID. -/
theorem scope_unique (hw : s.WellFormed) {k k' : ScopedKey} (hk₁ : k.Proper) (hk₂ : k'.Proper)
    (h : s.scopeIdOf k = .ok id) (h' : s.scopeIdOf k' = .ok id) (hs : k.scope ≠ id) (hs' : k'.scope ≠ id) :
    k.scope = k'.scope := by
  have hglobal : ∀ {key}, s.scopeIdOf (.global key) = .ok id → (ScopedKey.global key).scope = id := fun h => by
    cases h
    rfl
  have hmixed : ∀ {c key c' p' key'}, s.scopeIdOf (.cluster c key) = .ok id →
      s.scopeIdOf (.project c' p' key') ≠ .ok id := fun hc hp => by
    obtain ⟨id', cl, hg, rfl⟩ := exists_cluster_of_clusterIdOf hc
    obtain ⟨id'', p, hp, he⟩ := exists_project_of_projectIdOf hp
    exact (hw.clusterIds id' cl hg).2 (he ▸ hw.colon_mem_projectId hp)
  cases k with
  | global key => exact absurd (hglobal h) hs
  | cluster c key =>
    cases k' with
    | global key' => exact absurd (hglobal h') hs'
    | cluster c' key' =>
      obtain ⟨r, hr, rfl⟩ := name_of_clusterIdOf hk h hs
      obtain ⟨r', hr', rfl⟩ := name_of_clusterIdOf hk h' hs'
      rw [hr] at hr'
      cases hr'
      rfl
    | project c' p' key' => exact absurd h' (hmixed h)
  | project c p key =>
    cases k' with
    | global key' => exact absurd (hglobal h') hs'
    | cluster c' key' => exact absurd h (hmixed h')
    | project c' p' key' =>
      obtain ⟨r, hr, hn⟩ := names_of_projectIdOf hk hw hk₁.1 hk₁.2 h hs
      obtain ⟨r', hr', hn'⟩ := names_of_projectIdOf hk hw hk₂.1 hk₂.2 h' hs'
      rw [hr] at hr'
      cases hr'
      show joinScope c p = joinScope c' p'
      rcases hn with hn | ⟨rfl, cl, hcl, rfl⟩
      · rcases hn' with hn' | ⟨rfl, -⟩
        · rw [← hn, hn']
        · exact absurd (hn ▸ colon_mem_joinScope c p) hk₂.2
      · rcases hn' with hn' | ⟨rfl, cl', hcl', rfl⟩
        · exact absurd (hn' ▸ colon_mem_joinScope c' p') hk₁.2
        · rw [hcl] at hcl'
          cases hcl'
          rfl

end Store

namespace FlatAnswers

/-- The entry with key `k` is one for `key` in the scope with ID `id` and spells that scope by
names. -/
structure Named (resolve : ScopedKey → Except Fault String) (keys : List String) (id key k : String) : Prop
    extends Means resolve keys id key k where
  byName : (ScopedKey.parse k).scope ≠ id

variable {s : Store} {keys : List String} {id key k : String} (hw : s.WellFormed) (hk : s.Keyed)
include hw hk

theorem Named.unique {k' : String} (h : Named s.scopeIdOf keys id key k) (h' : Named s.scopeIdOf keys id key k') :
    k = k' := by
  have hscope := Store.scope_unique hk hw (ScopedKey.proper_parse k) (ScopedKey.proper_parse k') h.resolves h'.resolves
    h.byName h'.byName
  rw [← spelling_scope h.resolves, ← spelling_scope h'.resolves, hscope, h.part, h'.part]

/-- The entry that names the scope stands. -/
theorem Named.stands (h : Named s.scopeIdOf keys id key k) : Stands s.scopeIdOf keys id key k where
  toMeans := h.toMeans
  last _ hm hs := ⟨h.byName, h.unique hw hk ⟨hm, hs⟩ ▸ String.le_refl _⟩

end FlatAnswers

end MultiCluster
