/-
Reconciliation: the records of a flat map, for every store without scripts for its clusters and
projects. There are none where a scope cannot be resolved, and the first key that fails says why.
Else a record holds a value where an entry of the map means it, under any spelling; the value is that
of the entry that stands; and there is one record for each scope, in the order of the IDs
(`toAnswers_reconciles`).
-/
import MultiCluster.Proofs.Answers.Filling
import MultiCluster.Proofs.Store.Reachable
import Mathlib
namespace MultiCluster

/-! ## What scopes stand for -/

namespace Store

/-- What a session that remembers nothing resolves a key's scope to. -/
def scopeId (s : Store) (k : ScopedKey) : Except Fault String :=
  ((FlatAnswers.resolveScope k).run ({ client := s } : Session Store)).1

variable {s : Store}

theorem scopeId_eq (hc : s.Unscripted .cluster) (hp : s.Unscripted .project) : s.scopeId = s.scopeIdOf := by
  funext k
  obtain ⟨t, ht, -, -⟩ := FlatAnswers.run_resolveScope (Session.sound_fresh (.refl hc hp)) k
  rw [scopeId, ht]

end Store

namespace FlatAnswers

variable {s : Store} {flat : FlatAnswers} {as : List Answer} {b : Buckets}

theorem globalIsEmpty (hc : s.Identified .cluster) (hp : s.Identified .project) : GlobalIsEmpty s.scopeIdOf where
  global _ := rfl
  eq_global k h := by
    cases k with
    | global key => exact ⟨key, rfl⟩
    | cluster c key =>
      obtain ⟨id', c', hg, he⟩ := Store.exists_cluster_of_clusterIdOf h
      exact absurd he (hc id' c' hg)
    | project c p key =>
      obtain ⟨id', p', hg, he⟩ := Store.exists_project_of_projectIdOf h
      exact absurd he (hp id' p' hg)

/-- A key whose scope is resolved is the spelling of its scope and its key. -/
theorem spelling_scope {k id : String} (h : s.scopeIdOf (ScopedKey.parse k) = .ok id) :
    spelling (ScopedKey.parse k).scope (ScopedKey.parse k).key = k := by
  rw [← render_eq_spelling fun he => ?_, ScopedKey.render_parse]
  cases hp : ScopedKey.parse k with
  | global key => exact ⟨key, rfl⟩
  | cluster c key =>
    rw [hp] at h he
    obtain rfl : c = "" := he
    -- no cluster is found by an empty reference
    cases h
  | project c p key =>
    rw [hp] at he
    exact absurd he (joinScope_ne_empty c p)

/-! ## Records of buckets -/

@[simp] theorem scopeOf_toAnswer (id : String) (values : Dict String) : scopeOf (Buckets.toAnswer id values) = id := by
  unfold Buckets.toAnswer scopeOf
  split
  · rename_i h
    have : id ≠ "" := fun he => by simp [he] at h
    simp [this]
  · simp

@[simp] theorem values_toAnswer (id : String) (values : Dict String) :
    (Buckets.toAnswer id values).values = values := by
  unfold Buckets.toAnswer
  split <;> rfl

/-- The records hold `value` for `key` in the scope with ID `id`. -/
def Holds (as : List Answer) (id key value : String) : Prop := ∃ a ∈ as, scopeOf a = id ∧ a.values.get? key = some value

theorem mem_bucket_iff {id key value : String} :
    (b.bucket id).get? key = some value ↔ ∃ d, b.get? id = some d ∧ d.get? key = some value := by
  unfold Buckets.bucket
  cases b.get? id <;> simp

theorem mem_toAnswers {a : Answer} : a ∈ b.toAnswers ↔ ∃ id d, b.get? id = some d ∧ Buckets.toAnswer id d = a := by
  simp [Buckets.toAnswers, Dict.get?_eq_some_iff]

theorem holds_toAnswers {id key value : String} :
    Holds b.toAnswers id key value ↔ (b.bucket id).get? key = some value := by
  rw [mem_bucket_iff]
  constructor
  · rintro ⟨a, ha, hs, hv⟩
    obtain ⟨id', d, hd, rfl⟩ := mem_toAnswers.1 ha
    rw [scopeOf_toAnswer] at hs
    rw [values_toAnswer] at hv
    exact ⟨d, hs ▸ hd, hv⟩
  · rintro ⟨d, hd, hv⟩
    exact ⟨_, mem_toAnswers.2 ⟨id, d, hd, rfl⟩, scopeOf_toAnswer id d, by rw [values_toAnswer, hv]⟩

theorem ascending_toAnswers (b : Buckets) : (b.toAnswers.map scopeOf).Pairwise (· < ·) := by
  rw [Buckets.toAnswers, List.map_map, List.pairwise_map]
  refine b.ascending.imp fun {x y} hlt => ?_
  show scopeOf (Buckets.toAnswer x.1 x.2) < scopeOf (Buckets.toAnswer y.1 y.2)
  rw [scopeOf_toAnswer, scopeOf_toAnswer]
  exact hlt

/-! ## Reconciliation -/

/-- The records of a flat map: they hold a value where the map has an entry of that meaning, namely
that of the one that stands; there is one record for each scope, with some value, in the order of the
IDs; and it shows its scope as that of a cluster or of a project where IDs tell these apart. -/
structure Reconciled (s : Store) (flat : FlatAnswers) (as : List Answer) : Prop where
  held : ∀ id key, (∃ v, Holds as id key v) ↔ ∃ k, Means s.scopeId flat.keys id key k
  value : ∀ id key v, Holds as id key v ↔ ∃ k, Stands s.scopeId flat.keys id key k ∧ flat.get? k = some v
  ascending : (as.map scopeOf).Pairwise (· < ·)
  globalFirst : ∀ a ∈ as, scopeOf a = "" → as.head? = some a
  nonempty : ∀ a ∈ as, a.values.isEmpty = false
  inGlobal : ∀ k ∈ flat, ∀ key, ScopedKey.parse k = .global key →
    ∃ values, ({ values } : Answer) ∈ as ∧ key ∈ values
  inCluster : (∀ id c, s.get? .cluster id = some c → ':' ∉ c.id.toList) →
    ∀ k ∈ flat, ∀ c key id, ScopedKey.parse k = .cluster c key → s.scopeId (ScopedKey.parse k) = .ok id →
      ∃ values, ({ clusterId := id, values } : Answer) ∈ as ∧ key ∈ values
  inProject : (∀ id p, s.get? .project id = some p → ':' ∈ p.id.toList) →
    ∀ k ∈ flat, ∀ c p key id, ScopedKey.parse k = .project c p key → s.scopeId (ScopedKey.parse k) = .ok id →
      ∃ values, ({ projectId := id, values } : Answer) ∈ as ∧ key ∈ values

theorem filled_of_ok (hc : s.Identified .cluster) (hp : s.Identified .project)
    (h : fillWith s.scopeIdOf flat.toList ∅ = .ok b) : Filled s.scopeIdOf flat.toList b :=
  filled_nil.fillWith (globalIsEmpty hc hp) flat.ascending h

/-- A value that is held lies in the record of its scope. -/
theorem Filled.mem_record (h : Filled s.scopeIdOf flat.toList b) {k id : String} (hk : k ∈ flat)
    (hr : s.scopeIdOf (ScopedKey.parse k) = .ok id) :
    ∃ values, Buckets.toAnswer id values ∈ b.toAnswers ∧ (ScopedKey.parse k).key ∈ values := by
  obtain ⟨value, hvalue⟩ := Dict.mem_iff_exists.1 ((h.held id _).2 ⟨k, Dict.mem_keys.2 hk, hr, rfl⟩)
  obtain ⟨d, hd, hdv⟩ := mem_bucket_iff.1 hvalue
  exact ⟨d, mem_toAnswers.2 ⟨id, d, hd, rfl⟩, Dict.mem_of_get? hdv⟩

/-- The value that is held is that of the entry that stands. -/
theorem Filled.get?_bucket_iff (h : Filled s.scopeIdOf flat.toList b) (hg : GlobalIsEmpty s.scopeIdOf)
    {id key v : String} :
    (b.bucket id).get? key = some v ↔ ∃ k, Stands s.scopeIdOf flat.keys id key k ∧ flat.get? k = some v := by
  constructor
  · intro hv
    obtain ⟨k, hk, hst⟩ := h.value id key v hv
    exact ⟨k, hst, Dict.get?_eq_some_iff.2 hk⟩
  · rintro ⟨k, hst, hk⟩
    obtain ⟨v', hv'⟩ := Dict.mem_iff_exists.1 ((h.held id key).2 ⟨k, hst.toMeans⟩)
    obtain ⟨k', hk', hst'⟩ := h.value id key v' hv'
    obtain rfl := hst.unique hg hst'
    rw [hv', ← hk, Dict.get?_eq_some_iff.2 hk']

theorem Filled.reconciled (h : Filled s.scopeIdOf flat.toList b) (hg : GlobalIsEmpty s.scopeIdOf)
    (hs : s.scopeId = s.scopeIdOf) : Reconciled s flat b.toAnswers where
  held id key := by
    rw [hs, ← show _ ↔ ∃ k, Means s.scopeIdOf flat.keys id key k from h.held id key]
    simp only [holds_toAnswers]
    exact Dict.mem_iff_exists.symm
  value id key v := by
    rw [hs, holds_toAnswers]
    exact h.get?_bucket_iff hg
  ascending := ascending_toAnswers b
  globalFirst a ha hempty := by
    have hasc := ascending_toAnswers b
    cases hl : b.toAnswers with
    | nil => rw [hl] at ha; cases ha
    | cons first rest =>
      rw [hl, List.map_cons, List.pairwise_cons] at hasc
      rw [hl] at ha
      rcases List.mem_cons.1 ha with rfl | ha
      · rfl
      · have hlt := hasc.1 _ (List.mem_map_of_mem ha)
        rw [hempty] at hlt
        exact absurd (String.lt_iff.1 hlt) (List.not_lt_nil _)
  nonempty a ha := by
    obtain ⟨id, d, hd, rfl⟩ := mem_toAnswers.1 ha
    rw [values_toAnswer]
    exact h.nonempty id d hd
  inGlobal k hk key hp := by
    obtain ⟨values, hm, hv⟩ := h.mem_record hk (by rw [hp]; rfl)
    rw [hp] at hv
    exact ⟨values, hm, hv⟩
  inCluster hplain k hk c key id hp hr := by
    rw [hs] at hr
    obtain ⟨values, hm, hv⟩ := h.mem_record hk hr
    rw [hp] at hr hv
    obtain ⟨id', c', hg, rfl⟩ := Store.exists_cluster_of_clusterIdOf hr
    rw [Buckets.toAnswer, if_neg (hplain id' c' hg)] at hm
    exact ⟨values, hm, hv⟩
  inProject hcolon k hk c p key id hp hr := by
    rw [hs] at hr
    obtain ⟨values, hm, hv⟩ := h.mem_record hk hr
    rw [hp] at hr hv
    obtain ⟨id', p', hg, rfl⟩ := Store.exists_project_of_projectIdOf hr
    rw [Buckets.toAnswer, if_pos (hcolon id' p' hg)] at hm
    exact ⟨values, hm, hv⟩

/-- Making records of a flat map fails where a scope is not resolved, with the failure of the first
such key, and else reconciles the entries of the map. -/
theorem toAnswers_reconciles (hc : s.Unscripted .cluster) (hp : s.Unscripted .project) (hic : s.Identified .cluster)
    (hip : s.Identified .project) (flat : FlatAnswers) :
    ((∃ e, ((toAnswers flat).run ({ client := s } : Session Store)).1 = .error e) ↔
      ∃ k ∈ flat.keys, ∃ e, s.scopeId (ScopedKey.parse k) = .error e) ∧
    (∀ e, ((toAnswers flat).run ({ client := s } : Session Store)).1 = .error e ↔
      FirstUnresolved s.scopeId flat.keys e) ∧
    ∀ as, ((toAnswers flat).run ({ client := s } : Session Store)).1 = .ok as → Reconciled s flat as := by
  obtain ⟨t, ht, -, -⟩ := run_toAnswers (Session.sound_fresh (.refl hc hp)) flat
  have hs := Store.scopeId_eq hc hp
  have hall : (∃ b, fillWith s.scopeIdOf flat.toList ∅ = .ok b) ↔ _ := exists_fillWith_iff
  have hfirst : ∀ e, fillWith s.scopeIdOf flat.toList ∅ = .error e ↔ _ := fun _ => fillWith_eq_error_iff flat.ascending
  rw [ht, hs]
  rcases hf : fillWith s.scopeIdOf flat.toList ∅ with e | b <;> rw [hf] at hall hfirst
  · refine ⟨⟨fun _ => ?_, fun _ => ⟨e, rfl⟩⟩, fun e' => ?_, fun as h => by cases h⟩
    · obtain ⟨k, hk, he, -⟩ := (hfirst e).1 rfl
      exact ⟨k, hk, e, he⟩
    · exact Iff.trans ⟨by rintro ⟨⟩; rfl, by rintro ⟨⟩; rfl⟩ (hfirst e')
  · refine ⟨⟨by rintro ⟨e, ⟨⟩⟩, ?_⟩, fun e' => ?_, ?_⟩
    · rintro ⟨k, hk, e, he⟩
      obtain ⟨id, hid⟩ := hall.1 ⟨b, rfl⟩ k hk
      rw [hid] at he
      cases he
    · exact Iff.trans ⟨by rintro ⟨⟩, by rintro ⟨⟩⟩ (hfirst e')
    · rintro as ⟨⟩
      exact (filled_of_ok hic hip hf).reconciled (globalIsEmpty hic hip) hs

/-- The name of a cluster overrides its ID. -/
theorem toAnswers_reconciles_prodWeb :
    ∃ as, ((toAnswers (Dict.ofList [("c-1:size", "1"), ("prod:size", "2"), ("zone", "eu")])).run
        ({ client := .prodWeb } : Session Store)).1 = .ok as ∧
      Reconciled .prodWeb (Dict.ofList [("c-1:size", "1"), ("prod:size", "2"), ("zone", "eu")]) as ∧
      as = [{ values := Dict.ofList [("zone", "eu")] },
        { clusterId := "c-1", values := Dict.ofList [("size", "2")] }] := by
  have hrun : ((toAnswers (Dict.ofList [("c-1:size", "1"), ("prod:size", "2"), ("zone", "eu")])).run
      ({ client := .prodWeb } : Session Store)).1 =
        .ok [{ values := Dict.ofList [("zone", "eu")] },
          { clusterId := "c-1", values := Dict.ofList [("size", "2")] }] := by
    cbv
  exact ⟨_, hrun, (toAnswers_reconciles (Store.unscripted_ofRecords _) (Store.unscripted_ofRecords _)
    (Store.forall_cluster_ofRecords (by decide)) (Store.forall_project_ofRecords (by decide)) _).2.2 _ hrun, rfl⟩

end FlatAnswers

end MultiCluster
