/-
Flat maps and records there and back, on a well-formed directory. A key in normal form (`Canonical`)
spells its scope by the ID, and IDs stand for their own records, so such a key is the spelling of what
it means. Making records of a map of such keys and reading them off gives the map back; and reading
off any records that were made gives the normal form of the map, which makes the same records again
(`answers_round_trip`).
-/
import MultiCluster.Proofs.Answers.Reconciliation
import MultiCluster.Proofs.Session.WellFormed
namespace MultiCluster

/-! ## Keys in normal form -/

/-- The keys that name no scope or spell it by an ID. -/
inductive Store.Canonical (s : Store) : String → Prop
  | global {key : String} : ':' ∉ key.toList → s.Canonical key
  | cluster {id key : String} {c : Cluster} : s.get? .cluster id = some c → ':' ∉ key.toList →
      s.Canonical (joinScope c.id key)
  | project {id key : String} {p : Project} : s.get? .project id = some p → s.Canonical (joinScope p.id key)

namespace FlatAnswers

variable {s : Store} {k id key : String}

section Keys

variable (hw : s.WellFormed) (hk : s.Keyed)
include hw

theorem parse_clusterKey {c : Cluster} (h : s.get? .cluster id = some c) (hkey : ':' ∉ key.toList) :
    ScopedKey.parse (joinScope c.id key) = .cluster c.id key :=
  ScopedKey.parse_eq_iff.2 ⟨rfl, (hw.clusterIds id c h).2, hkey⟩

theorem parse_projectKey {p : Project} (h : s.get? .project id = some p) (key : String) :
    ∃ c rest, p.id = joinScope c rest ∧ ScopedKey.parse (joinScope p.id key) = .project c rest key := by
  obtain ⟨id', c, rest, hc, hid, -, hrest⟩ := hw.projectIds id p h
  refine ⟨c.id, rest, hid, ScopedKey.parse_eq_iff.2 ⟨?_, (hw.clusterIds id' c hc).2, hrest⟩⟩
  rw [hid]
  rfl

/-- Spelling the scope of a key by the ID it stands for gives a key in normal form of the same
meaning. -/
theorem canonical_spelling (h : s.scopeIdOf (ScopedKey.parse k) = .ok id) :
    s.Canonical (spelling id (ScopedKey.parse k).key) ∧
      (ScopedKey.parse (spelling id (ScopedKey.parse k).key)).scope = id ∧
      (ScopedKey.parse (spelling id (ScopedKey.parse k).key)).key = (ScopedKey.parse k).key := by
  have hproper := ScopedKey.proper_parse k
  cases hp : ScopedKey.parse k with
  | global key =>
    rw [hp] at h hproper
    cases h
    have hkey : ScopedKey.parse key = .global key := ScopedKey.parse_eq_iff.2 ⟨rfl, hproper⟩
    rw [show spelling "" (ScopedKey.global key).key = key from rfl, hkey]
    exact ⟨.global hproper, rfl, rfl⟩
  | cluster c key =>
    rw [hp] at h hproper
    obtain ⟨id', c', hc', rfl⟩ := Store.exists_cluster_of_clusterIdOf h
    have hs : spelling c'.id (ScopedKey.cluster c key).key = joinScope c'.id key := by
      simp [spelling, (hw.clusterIds id' c' hc').1, ScopedKey.key]
    rw [hs, parse_clusterKey hw hc' hproper.2]
    exact ⟨.cluster hc' hproper.2, rfl, rfl⟩
  | project c p key =>
    rw [hp] at h
    obtain ⟨id', p', hp', rfl⟩ := Store.exists_project_of_projectIdOf h
    have hs : spelling p'.id (ScopedKey.project c p key).key = joinScope p'.id key := by
      have hne : p'.id ≠ "" := hw.identified_project id' p' hp'
      simp [spelling, hne, ScopedKey.key]
    obtain ⟨c', rest, hid, hparse⟩ := parse_projectKey hw hp' key
    rw [hs, hparse]
    exact ⟨.project hp', hid.symm, rfl⟩

include hk

/-- The scope of a key in normal form stands for itself. -/
theorem Canonical.resolves (h : s.Canonical k) : s.scopeIdOf (ScopedKey.parse k) = .ok (ScopedKey.parse k).scope := by
  cases h with
  | global hkey =>
    rw [show ScopedKey.parse k = .global k from ScopedKey.parse_eq_iff.2 ⟨rfl, hkey⟩]
    rfl
  | cluster hc hkey =>
    rw [parse_clusterKey hw hc hkey]
    exact hw.clusterIdOf_id hk hc
  | project hp =>
    obtain ⟨c, rest, hid, hparse⟩ := parse_projectKey hw hp _
    have hr := hw.projectIdOf_id hk hp
    rw [hid] at hr
    rw [hparse]
    exact hr

theorem spelling_of_canonical (h : s.Canonical k) (hr : s.scopeIdOf (ScopedKey.parse k) = .ok id) :
    spelling id (ScopedKey.parse k).key = k := by
  rw [Canonical.resolves hw hk h] at hr
  cases hr
  exact spelling_scope (Canonical.resolves hw hk h)

end Keys

/-! ## Reading records off -/

variable {b : Buckets} {v : String}

theorem mem_entriesOf {a : Answer} :
    (k, v) ∈ entriesOf a ↔ ∃ key, a.values.get? key = some v ∧ k = spelling (scopeOf a) key := by
  have hentries : entriesOf a = a.values.toList.map fun e => (spelling (scopeOf a) e.1, e.2) := rfl
  simp only [hentries, List.mem_map, Prod.mk.injEq, Prod.exists, Dict.get?_eq_some_iff]
  constructor
  · rintro ⟨key, v', he, rfl, rfl⟩
    exact ⟨key, he, rfl⟩
  · rintro ⟨key, he, rfl⟩
    exact ⟨key, v, he, rfl, rfl⟩

theorem mem_entries : (k, v) ∈ b.toAnswers.flatMap entriesOf ↔
    ∃ id key, k = spelling id key ∧ (b.bucket id).get? key = some v := by
  simp only [List.mem_flatMap, mem_entriesOf, mem_bucket_iff]
  constructor
  · rintro ⟨a, ha, key, hv, rfl⟩
    obtain ⟨id, d, hd, rfl⟩ := mem_toAnswers.1 ha
    rw [values_toAnswer] at hv
    exact ⟨id, key, by rw [scopeOf_toAnswer], d, hd, hv⟩
  · rintro ⟨id, key, rfl, d, hd, hv⟩
    refine ⟨_, mem_toAnswers.2 ⟨id, d, hd, rfl⟩, key, ?_, ?_⟩
    · rw [values_toAnswer]
      exact hv
    · rw [scopeOf_toAnswer]

/-- What is held is read off under the spelling of its meaning, where spellings tell meanings apart. -/
theorem get?_ofAnswers (h : ∀ id key, key ∈ b.bucket id →
      (ScopedKey.parse (spelling id key)).scope = id ∧ (ScopedKey.parse (spelling id key)).key = key) :
    (ofAnswers b.toAnswers).get? k = some v ↔ ∃ id key, k = spelling id key ∧ (b.bucket id).get? key = some v := by
  rw [← mem_entries]
  constructor
  · intro hv
    rcases Dict.mem_of_get?_insertMany hv with hm | hm
    · exact hm
    · cases hm
  · intro hm
    refine Dict.get?_insertMany_of_mem hm fun v' hm' => ?_
    obtain ⟨id, key, rfl, hv⟩ := mem_entries.1 hm
    obtain ⟨id', key', he, hv'⟩ := mem_entries.1 hm'
    obtain ⟨hs, hp⟩ := h id key (Dict.mem_of_get? hv)
    obtain ⟨hs', hp'⟩ := h id' key' (Dict.mem_of_get? hv')
    rw [← he] at hs' hp'
    rw [← hs', ← hp', hs, hp, hv] at hv'
    exact (Option.some.inj hv').symm

theorem get?_eq_bucket (hb : ∀ id d, b.get? id = some d → d.isEmpty = false) (id : String) :
    b.get? id = if (b.bucket id).isEmpty then none else some (b.bucket id) := by
  unfold Buckets.bucket
  cases hd : b.get? id with
  | none => rfl
  | some d => simp [hb id d hd]

/-- Buckets that hold the same are the same when none of them is empty. -/
theorem buckets_ext {b' : Buckets} (hb : ∀ id d, b.get? id = some d → d.isEmpty = false)
    (hb' : ∀ id d, b'.get? id = some d → d.isEmpty = false)
    (h : ∀ id key v, (b.bucket id).get? key = some v ↔ (b'.bucket id).get? key = some v) : b = b' := by
  refine Dict.ext_get? fun id => ?_
  have hbucket : b.bucket id = b'.bucket id := Dict.ext_get? fun key => Option.ext (h id key)
  rw [get?_eq_bucket hb, get?_eq_bucket hb', hbucket]

/-! ## There and back -/

section RoundTrip

variable {flat : FlatAnswers} (hw : s.WellFormed) (hk : s.Keyed)
include hw

/-- What the buckets of a map hold has a spelling in normal form that means it. -/
theorem Filled.canonical (h : Filled s.scopeIdOf flat.toList b) (hm : key ∈ b.bucket id) :
    s.Canonical (spelling id key) ∧ (ScopedKey.parse (spelling id key)).scope = id ∧
      (ScopedKey.parse (spelling id key)).key = key := by
  obtain ⟨k, hmeans⟩ := (h.held id key).1 hm
  have := canonical_spelling hw hmeans.resolves
  rwa [hmeans.part] at this

theorem Filled.get?_ofAnswers (h : Filled s.scopeIdOf flat.toList b) :
    (ofAnswers b.toAnswers).get? k = some v ↔ ∃ id key, k = spelling id key ∧ (b.bucket id).get? key = some v :=
  FlatAnswers.get?_ofAnswers fun _ _ hm => (h.canonical hw hm).2

/-- What is read off has keys in normal form. -/
theorem Filled.canonical_ofAnswers (h : Filled s.scopeIdOf flat.toList b) (hm : k ∈ ofAnswers b.toAnswers) :
    s.Canonical k := by
  obtain ⟨v, hv⟩ := Dict.mem_iff_exists.1 hm
  obtain ⟨id, key, rfl, hget⟩ := (h.get?_ofAnswers hw).1 hv
  exact (h.canonical hw (Dict.mem_of_get? hget)).1

include hk

/-- A map of keys in normal form comes back. -/
theorem Filled.ofAnswers_eq (h : Filled s.scopeIdOf flat.toList b) (hc : ∀ k ∈ flat, s.Canonical k) :
    ofAnswers b.toAnswers = flat := by
  have hmem : ∀ {k v}, (k, v) ∈ flat.toList → k ∈ flat := fun hm => Dict.mem_of_get? (Dict.get?_eq_some_iff.2 hm)
  -- every entry is the spelling of its meaning, so no two mean the same
  have hspell : ∀ {k v id key}, (k, v) ∈ flat.toList → Means s.scopeIdOf flat.keys id key k → spelling id key = k :=
    fun hm hmeans => by
      rw [← hmeans.part]
      exact spelling_of_canonical hw hk (hc _ (hmem hm)) hmeans.resolves
  refine Dict.ext_get? fun k => Option.ext fun v => ?_
  rw [h.get?_ofAnswers hw]
  constructor
  · rintro ⟨id, key, rfl, hv⟩
    obtain ⟨k', hm, hst⟩ := h.value id key v hv
    rw [hspell hm hst.toMeans]
    exact Dict.get?_eq_some_iff.2 hm
  · intro hv
    have hm := Dict.get?_eq_some_iff.1 hv
    have hmeans : Means s.scopeIdOf flat.keys (ScopedKey.parse k).scope (ScopedKey.parse k).key k :=
      ⟨List.mem_map.2 ⟨_, hm, rfl⟩, Canonical.resolves hw hk (hc k (hmem hm)), rfl⟩
    obtain ⟨v', hv'⟩ := Dict.mem_iff_exists.1 ((h.held _ _).2 ⟨k, hmeans⟩)
    obtain ⟨k', hm', hst⟩ := h.value _ _ v' hv'
    obtain rfl : k = k' := (hspell hm hmeans).symm.trans (hspell hm' hst.toMeans)
    rw [Dict.get?_eq_some_iff.2 hm'] at hv
    cases hv
    exact ⟨_, _, (hspell hm hmeans).symm, hv'⟩

/-- What is read off fills the same buckets. -/
theorem Filled.eq_of_ofAnswers {b' : Buckets} (h : Filled s.scopeIdOf flat.toList b)
    (h' : Filled s.scopeIdOf (ofAnswers b.toAnswers).toList b') : b' = b := by
  have hto : ∀ {id key v}, (b'.bucket id).get? key = some v → (b.bucket id).get? key = some v := fun {id key v} hv => by
    obtain ⟨k, hm, hst⟩ := h'.value id key v hv
    obtain ⟨id', key', rfl, hget⟩ := (h.get?_ofAnswers hw).1 (Dict.get?_eq_some_iff.2 hm)
    obtain ⟨hcan, hs, hp⟩ := h.canonical hw (Dict.mem_of_get? hget)
    have hr := hst.resolves
    rw [Canonical.resolves hw hk hcan, hs] at hr
    cases hr
    rwa [← hst.part, hp]
  refine buckets_ext h'.nonempty h.nonempty fun id key v => ⟨hto, fun hv => ?_⟩
  obtain ⟨hcan, hs, hp⟩ := h.canonical hw (Dict.mem_of_get? hv)
  have hm : (spelling id key, v) ∈ (ofAnswers b.toAnswers).toList :=
    Dict.get?_eq_some_iff.1 ((h.get?_ofAnswers hw).2 ⟨id, key, rfl, hv⟩)
  have hheld : key ∈ b'.bucket id := (h'.held id key).2
    ⟨_, List.mem_map.2 ⟨_, hm, rfl⟩, by rw [Canonical.resolves hw hk hcan, hs], hp⟩
  obtain ⟨v', hv'⟩ := Dict.mem_iff_exists.1 hheld
  rw [hv', ← hv, hto hv']

end RoundTrip

/-- On a well-formed directory a map of keys in normal form makes records from which it is read off,
and whatever records a map makes are read off in normal form and made again from that. -/
theorem answers_round_trip (hr : s.Reachable) (hw : s.WellFormed) :
    (∀ flat : FlatAnswers, (∀ k ∈ flat, s.Canonical k) →
      ∃ as, ((toAnswers flat).run ({ client := s } : Session Store)).1 = .ok as ∧ ofAnswers as = flat) ∧
    ∀ (flat : FlatAnswers) (as : List Answer), ((toAnswers flat).run ({ client := s } : Session Store)).1 = .ok as →
      (∀ k ∈ ofAnswers as, s.Canonical k) ∧
        ((toAnswers (ofAnswers as)).run ({ client := s } : Session Store)).1 = .ok as := by
  have hk := hr.keyed
  have hrun : ∀ flat : FlatAnswers, ((toAnswers flat).run ({ client := s } : Session Store)).1 =
      (fillWith s.scopeIdOf flat.toList ∅).map Buckets.toAnswers := fun flat => by
    obtain ⟨t, ht, -⟩ := run_toAnswers (Session.sound_fresh (.refl hw.clusterScripts hw.projectScripts)) flat
    rw [ht]
  have hfill : ∀ flat : FlatAnswers, (∀ k ∈ flat, s.Canonical k) → ∃ b, fillWith s.scopeIdOf flat.toList ∅ = .ok b :=
    fun flat hc => exists_fillWith_iff.2 fun k hm => by
      exact ⟨_, Canonical.resolves hw hk (hc k (Dict.mem_keys.1 hm))⟩
  have hfilled : ∀ {flat : FlatAnswers} {b}, fillWith s.scopeIdOf flat.toList ∅ = .ok b →
      Filled s.scopeIdOf flat.toList b :=
    filled_of_ok hw.identified_cluster hw.identified_project
  constructor
  · intro flat hc
    obtain ⟨b, hb⟩ := hfill flat hc
    exact ⟨b.toAnswers, by rw [hrun, hb]; rfl, (hfilled hb).ofAnswers_eq hw hk hc⟩
  · intro flat as has
    rw [hrun] at has
    obtain ⟨b, hb, rfl⟩ := map_eq_ok has
    have hcan := fun k => (hfilled hb).canonical_ofAnswers hw (k := k)
    obtain ⟨b', hb'⟩ := hfill _ hcan
    refine ⟨hcan, ?_⟩
    rw [hrun, hb', (hfilled hb).eq_of_ofAnswers hw hk (hfilled hb')]
    rfl

/-- A colon in a project's key comes back, and so does an empty key; the name of a cluster comes back as
its ID. -/
theorem answers_round_trip_prodWeb :
    Store.prodWeb.WellFormed ∧
      (∃ as, ((toAnswers (Dict.ofList [("c-1:", "0"), ("c-1:p-1:a:b", "1")])).run
          ({ client := .prodWeb } : Session Store)).1 = .ok as ∧
        ofAnswers as = Dict.ofList [("c-1:", "0"), ("c-1:p-1:a:b", "1")]) ∧
      ∃ as, ((toAnswers (Dict.ofList [("prod:size", "2")])).run ({ client := .prodWeb } : Session Store)).1 = .ok as ∧
        ofAnswers as = Dict.ofList [("c-1:size", "2")] ∧
        ((toAnswers (ofAnswers as)).run ({ client := .prodWeb } : Session Store)).1 = .ok as := by
  have h := answers_round_trip Store.reachable_ofRecords .prodWeb
  refine ⟨.prodWeb, h.1 _ fun k hk => ?_, ?_⟩
  · have hkeys : k ∈ ["c-1:", "c-1:p-1:a:b"] := Dict.mem_keys.2 hk
    simp only [List.mem_cons, List.not_mem_nil, or_false] at hkeys
    rcases hkeys with rfl | rfl
    · have hc : Store.prodWeb.get? .cluster "c-1" = some ⟨"c-1", "prod"⟩ := rfl
      exact .cluster hc (show ':' ∉ "".toList by decide)
    · have hp : Store.prodWeb.get? .project "c-1:p-1" = some ⟨"c-1:p-1", "web", "c-1"⟩ := rfl
      exact @Store.Canonical.project _ _ "a:b" _ hp
  · have hrun : ((toAnswers (Dict.ofList [("prod:size", "2")])).run ({ client := .prodWeb } : Session Store)).1 =
        .ok [{ clusterId := "c-1", values := Dict.ofList [("size", "2")] }] := by cbv
    exact ⟨_, hrun, by cbv, (h.2 _ _ hrun).2⟩

end FlatAnswers

end MultiCluster
