/-
Filling the records of a flat map. What a session fills in is decided by what its store says of the
scopes (`run_toAnswers`), so entering is followed here for any reading of scopes. The entries come in
the order of their keys, and after each of them the buckets are those of the entries so far
(`Filled`): they hold a value exactly where one of these has its meaning, and of several entries with
one meaning the value is that of the last one that spells its scope by names, whether the entry that
spells it by the ID came before it or after it (`Stands`).
-/
import MultiCluster.Answers.Scoped
import MultiCluster.Proofs.Scope
import MultiCluster.Proofs.Session.Resolution
namespace MultiCluster

/-- The ID of a key's scope among the records. -/
def Store.scopeIdOf (s : Store) : ScopedKey → Except Fault String
  | .global _ => .ok ""
  | .cluster c _ => s.clusterIdOf c
  | .project c p _ => s.projectIdOf (joinScope c p)

namespace FlatAnswers

/-! ## Runs -/

/-- What filling gives where `resolve` says which scopes there are. -/
def fillWith (resolve : ScopedKey → Except Fault String) : List (String × String) → Buckets → Except Fault Buckets
  | [], b => .ok b
  | (k, value) :: r, b => do
    let id ← resolve (ScopedKey.parse k)
    fillWith resolve r (enter b (ScopedKey.parse k) id value)

section Runs

variable {s : Store} {t : Session Store}

theorem run_resolveScope (h : Session.Sound s t) (k : ScopedKey) :
    ∃ t', (resolveScope k).run t = (s.scopeIdOf k, t') ∧ Session.Sound s t' ∧ t.client.Kept t'.client := by
  cases k with
  | global key => exact ⟨t, rfl, h, .refl _⟩
  | cluster c key => exact Session.run_resolveCluster h c
  | project c p key => exact Session.run_resolveProject h (joinScope c p)

theorem run_fill (h : Session.Sound s t) (l : List (String × String)) (b : Buckets) :
    ∃ t', (fill l b).run t = (fillWith s.scopeIdOf l b, t') ∧ Session.Sound s t' ∧ t.client.Kept t'.client := by
  induction l generalizing t b with
  | nil => exact ⟨t, rfl, h, .refl _⟩
  | cons e r ih =>
    obtain ⟨k, value⟩ := e
    obtain ⟨t₁, h₁, hs₁, hk₁⟩ := run_resolveScope h (ScopedKey.parse k)
    rw [fill, fillWith]
    rcases hr : s.scopeIdOf (ScopedKey.parse k) with e | id <;> rw [hr] at h₁
    · exact ⟨t₁, Attempt.run_bind_error h₁, hs₁, hk₁⟩
    · obtain ⟨t₂, h₂, hs₂, hk₂⟩ := ih hs₁ (enter b (ScopedKey.parse k) id value)
      exact ⟨t₂, by rw [Attempt.run_bind_ok h₁, h₂]; rfl, hs₂, hk₁.trans hk₂⟩

/-- The records of a flat map are decided by the clusters and projects of the store. -/
theorem run_toAnswers (h : Session.Sound s t) (flat : FlatAnswers) :
    ∃ t', (toAnswers flat).run t = ((fillWith s.scopeIdOf flat.toList ∅).map Buckets.toAnswers, t') ∧
      Session.Sound s t' ∧ t.client.Kept t'.client := by
  obtain ⟨t', ht, hs, hk⟩ := run_fill h flat.toList ∅
  refine ⟨t', ?_, hs, hk⟩
  unfold toAnswers
  rcases hf : fillWith s.scopeIdOf flat.toList ∅ with e | b <;> rw [hf] at ht
  · exact Attempt.run_bind_error ht
  · exact Attempt.run_bind_ok ht

end Runs

/-! ## Failures -/

section Filling

variable {resolve : ScopedKey → Except Fault String}

/-- The first of the keys whose scope is not resolved fails with `e`. -/
def FirstUnresolved (resolve : ScopedKey → Except Fault String) (keys : List String) (e : Fault) : Prop :=
  ∃ k ∈ keys, resolve (ScopedKey.parse k) = .error e ∧
    ∀ k' ∈ keys, k' < k → ∃ id, resolve (ScopedKey.parse k') = .ok id

theorem firstUnresolved_cons {k : String} {keys : List String} {e : Fault} (hlt : ∀ k' ∈ keys, k < k') :
    FirstUnresolved resolve (k :: keys) e ↔ resolve (ScopedKey.parse k) = .error e ∨
      (∃ id, resolve (ScopedKey.parse k) = .ok id) ∧ FirstUnresolved resolve keys e := by
  constructor
  · rintro ⟨k₀, hk₀, he, hbefore⟩
    rcases List.mem_cons.1 hk₀ with rfl | hk₀
    · exact .inl he
    · exact .inr ⟨hbefore k (List.mem_cons_self ..) (hlt k₀ hk₀),
        k₀, hk₀, he, fun k' hk' => hbefore k' (List.mem_cons_of_mem _ hk')⟩
  · rintro (he | ⟨hid, k₀, hk₀, he, hbefore⟩)
    · refine ⟨k, List.mem_cons_self .., he, fun k' hk' hl => ?_⟩
      rcases List.mem_cons.1 hk' with rfl | hk'
      · exact absurd hl (String.lt_irrefl _)
      · exact absurd (String.lt_trans hl (hlt k' hk')) (String.lt_irrefl _)
    · refine ⟨k₀, List.mem_cons_of_mem _ hk₀, he, fun k' hk' hl => ?_⟩
      rcases List.mem_cons.1 hk' with rfl | hk'
      · exact hid
      · exact hbefore k' hk' hl

theorem fillWith_eq_error_iff {l : List (String × String)} {b : Buckets} {e : Fault} (ha : Ascending l) :
    fillWith resolve l b = .error e ↔ FirstUnresolved resolve (l.map Prod.fst) e := by
  induction l generalizing b with
  | nil => simp [fillWith, FirstUnresolved]
  | cons x r ih =>
    obtain ⟨k, value⟩ := x
    obtain ⟨hlt, har⟩ := List.pairwise_cons.1 ha
    have hafter : ∀ k' ∈ r.map Prod.fst, k < k' := fun k' hk' => by
      obtain ⟨x, hx, rfl⟩ := List.mem_map.1 hk'
      exact hlt x hx
    rw [fillWith, List.map_cons, firstUnresolved_cons hafter]
    rcases resolve (ScopedKey.parse k) with e' | id
    · show Except.error e' = Except.error e ↔ _
      simp
    · show fillWith resolve r _ = .error e ↔ _
      simp [ih har]

theorem exists_fillWith_iff {l : List (String × String)} {b : Buckets} :
    (∃ b', fillWith resolve l b = .ok b') ↔ ∀ k ∈ l.map Prod.fst, ∃ id, resolve (ScopedKey.parse k) = .ok id := by
  induction l generalizing b with
  | nil => simp [fillWith]
  | cons x r ih =>
    obtain ⟨k, value⟩ := x
    rw [List.map_cons, List.forall_mem_cons, fillWith]
    rcases hr : resolve (ScopedKey.parse k) with e | id
    · constructor
      · rintro ⟨b', hb⟩
        cases hb
      · rintro ⟨⟨id, hid⟩, -⟩
        cases hid
    · exact ih.trans ⟨fun h => ⟨⟨id, rfl⟩, h⟩, And.right⟩

/-! ## Meaning -/

/-- The key that spells a scope by its ID. -/
def spelling (id key : String) : String := if id.isEmpty then key else joinScope id key

theorem render_eq_spelling {k : ScopedKey} (h : k.scope = "" → ∃ key, k = .global key) :
    k.render = spelling k.scope k.key := by
  cases k with
  | global key => rfl
  | cluster c key =>
    have hc : c ≠ "" := fun he => by
      obtain ⟨_, hk⟩ := h he
      cases hk
    simp [ScopedKey.render, ScopedKey.scope, ScopedKey.key, spelling, hc]
  | project c p key =>
    simp [ScopedKey.render, ScopedKey.scope, ScopedKey.key, spelling, joinScope_ne_empty]

/-- The entry with key `k` is one for `key` in the scope with ID `id`. -/
structure Means (resolve : ScopedKey → Except Fault String) (keys : List String) (id key k : String) : Prop where
  mem : k ∈ keys
  resolves : resolve (ScopedKey.parse k) = .ok id
  part : (ScopedKey.parse k).key = key

/-- The entry whose value stands for `key` in a scope: the last one that spells the scope by names, or
else the one that spells it by its ID. -/
structure Stands (resolve : ScopedKey → Except Fault String) (keys : List String) (id key k : String) : Prop
    extends Means resolve keys id key k where
  last : ∀ k', Means resolve keys id key k' → (ScopedKey.parse k').scope ≠ id →
    (ScopedKey.parse k).scope ≠ id ∧ k' ≤ k

/-- The global scope has the empty ID, and no other has. -/
structure GlobalIsEmpty (resolve : ScopedKey → Except Fault String) : Prop where
  global : ∀ key, resolve (.global key) = .ok ""
  eq_global : ∀ k, resolve k = .ok "" → ∃ key, k = .global key

variable {keys : List String} {id key k : String}

/-- One key alone spells a scope by its ID. -/
theorem Means.eq_spelling (hg : GlobalIsEmpty resolve) (h : Means resolve keys id key k)
    (hs : (ScopedKey.parse k).scope = id) : k = spelling id key := by
  obtain ⟨-, hr, rfl⟩ := h
  rw [← hs, ← render_eq_spelling fun he => hg.eq_global _ (by rw [hr, ← hs, he]), ScopedKey.render_parse]

theorem Stands.unique (hg : GlobalIsEmpty resolve) {k' : String} (h : Stands resolve keys id key k)
    (h' : Stands resolve keys id key k') : k = k' := by
  by_cases hs : (ScopedKey.parse k).scope = id
  · have hs' : (ScopedKey.parse k').scope = id := Classical.byContradiction fun hn => (h.last k' h'.toMeans hn).1 hs
    rw [h.eq_spelling hg hs, h'.eq_spelling hg hs']
  · obtain ⟨hs', hle⟩ := h'.last k h.toMeans hs
    exact String.le_antisymm hle (h.last k' h'.toMeans hs').2

theorem means_append {k' : String} : Means resolve (keys ++ [k']) id key k ↔
    Means resolve keys id key k ∨ k = k' ∧ resolve (ScopedKey.parse k') = .ok id ∧ (ScopedKey.parse k').key = key := by
  constructor
  · rintro ⟨hm, hr, hk⟩
    rcases List.mem_append.1 hm with hm | hm
    · exact .inl ⟨hm, hr, hk⟩
    · obtain rfl := List.mem_singleton.1 hm
      exact .inr ⟨rfl, hr, hk⟩
  · rintro (⟨hm, hr, hk⟩ | ⟨rfl, hr, hk⟩)
    · exact ⟨by simp [hm], hr, hk⟩
    · exact ⟨by simp, hr, hk⟩

/-- An entry still stands behind another one that has another meaning, or spells the ID. -/
theorem Stands.append {k' : String} (h : Stands resolve keys id key k)
    (hk : resolve (ScopedKey.parse k') = .ok id → (ScopedKey.parse k').key = key → (ScopedKey.parse k').scope = id) :
    Stands resolve (keys ++ [k']) id key k := by
  refine ⟨means_append.2 (.inl h.toMeans), fun k₁ hm hs => ?_⟩
  rcases means_append.1 hm with hm | ⟨rfl, hr, hp⟩
  · exact h.last k₁ hm hs
  · exact absurd (hk hr hp) hs

/-! ## Buckets of the entries so far -/

theorem bucket_insert (b : Buckets) (id id' : String) (d : Dict String) :
    Buckets.bucket (b.insert id d) id' = if id = id' then d else b.bucket id' := by
  unfold Buckets.bucket
  rw [Dict.get?_insert]
  split <;> rfl

theorem get?_bucket_insert (b : Buckets) (id id' key key' value : String) :
    (Buckets.bucket (b.insert id ((b.bucket id).insert key value)) id').get? key' =
      if id = id' ∧ key = key' then some value else (b.bucket id').get? key' := by
  rw [bucket_insert]
  by_cases hid : id = id'
  · subst hid
    simp [Dict.get?_insert]
  · simp [hid]

/-- The buckets of the entries `done`. -/
structure Filled (resolve : ScopedKey → Except Fault String) (done : List (String × String)) (b : Buckets) : Prop where
  held : ∀ id key, key ∈ b.bucket id ↔ ∃ k, Means resolve (done.map Prod.fst) id key k
  value : ∀ id key v, (b.bucket id).get? key = some v →
    ∃ k, (k, v) ∈ done ∧ Stands resolve (done.map Prod.fst) id key k
  nonempty : ∀ id d, b.get? id = some d → d.isEmpty = false

theorem filled_nil : Filled resolve [] ∅ where
  held id key := by
    constructor
    · intro h
      cases h
    · rintro ⟨k, h⟩
      cases h.mem
  value id key v h := by cases h
  nonempty id d h := by cases h

namespace Filled

variable {done : List (String × String)} {b : Buckets} {value : String}

/-- No global entry is met twice, so a global answer is entered like one that is spelled by the ID. -/
theorem enter_eq (h : Filled resolve done b) (hg : GlobalIsEmpty resolve) (hlt : ∀ e ∈ done, e.1 < k)
    (hk : resolve (ScopedKey.parse k) = .ok id) :
    enter b (ScopedKey.parse k) id value =
      b.setValue (ScopedKey.parse k).scope id (ScopedKey.parse k).key value := by
  cases hp : ScopedKey.parse k with
  | cluster | project => rfl
  | global key =>
    rw [hp, hg.global] at hk
    cases hk
    have hfree : ¬ (b.bucket "").contains key = true := fun hc => by
      obtain ⟨k', hm⟩ := (h.held "" key).1 hc
      obtain ⟨key', hp'⟩ := hg.eq_global _ hm.resolves
      obtain ⟨e, he, rfl⟩ := List.mem_map.1 hm.mem
      have hek : e.1 = k := by
        rw [← ScopedKey.render_parse e.1, ← ScopedKey.render_parse k, hp, hp', ← hm.part, hp']
        rfl
      exact String.lt_irrefl k (hek ▸ hlt e he)
    simp [enter, Buckets.setValue, ScopedKey.scope, ScopedKey.key, hfree]

/-- The next entry is left out where it spells the ID and something is held already. -/
theorem skip (h : Filled resolve done b) (hk : resolve (ScopedKey.parse k) = .ok id)
    (hheld : (ScopedKey.parse k).key ∈ b.bucket id) (hs : (ScopedKey.parse k).scope = id) :
    Filled resolve (done ++ [(k, value)]) b := by
  rw [← hs] at hk hheld
  refine ⟨fun id' key' => ?_, fun id' key' v hv => ?_, h.nonempty⟩
  · rw [List.map_append, h.held]
    constructor
    · exact fun ⟨k', hm⟩ => ⟨k', means_append.2 (.inl hm)⟩
    · rintro ⟨k', hm⟩
      rcases means_append.1 hm with hm | ⟨-, hr, rfl⟩
      · exact ⟨k', hm⟩
      · obtain rfl := Except.ok.inj (hk.symm.trans hr)
        exact (h.held _ _).1 hheld
  · obtain ⟨k', hm, hst⟩ := h.value id' key' v hv
    refine ⟨k', by simp [hm], ?_⟩
    rw [List.map_append]
    exact hst.append fun hr _ => Except.ok.inj (hk.symm.trans hr)

/-- The next entry replaces what is held unless it spells the ID. -/
theorem put (h : Filled resolve done b) (hlt : ∀ e ∈ done, e.1 < k) (hk : resolve (ScopedKey.parse k) = .ok id)
    (hfree : (ScopedKey.parse k).key ∈ b.bucket id → (ScopedKey.parse k).scope ≠ id) :
    Filled resolve (done ++ [(k, value)]) (b.insert id ((b.bucket id).insert (ScopedKey.parse k).key value)) := by
  refine ⟨fun id' key' => ?_, fun id' key' v hv => ?_, fun id' d hd => ?_⟩
  · rw [List.map_append]
    show ((Buckets.bucket _ id').get? key').isSome = true ↔ _
    rw [get?_bucket_insert]
    split
    · rename_i he
      exact ⟨fun _ => ⟨k, means_append.2 (.inr ⟨rfl, he.1 ▸ hk, he.2⟩)⟩, fun _ => rfl⟩
    · rename_i hne
      rw [show ((b.bucket id').get? key').isSome = true ↔ _ from h.held id' key']
      refine exists_congr fun k' => ⟨fun hm => means_append.2 (.inl hm), fun hm => ?_⟩
      rcases means_append.1 hm with hm | ⟨-, hr, hp⟩
      · exact hm
      · exact absurd ⟨Except.ok.inj (hk.symm.trans hr), hp⟩ hne
  · rw [List.map_append]
    rw [get?_bucket_insert] at hv
    split at hv
    · rename_i he
      obtain ⟨rfl, rfl⟩ := he
      cases hv
      refine ⟨k, by simp, means_append.2 (.inr ⟨rfl, hk, rfl⟩), fun k' hm hs => ?_⟩
      rcases means_append.1 hm with hm | ⟨rfl, -, -⟩
      · obtain ⟨e, he, rfl⟩ := List.mem_map.1 hm.mem
        exact ⟨hfree ((h.held _ _).2 ⟨_, hm⟩), String.not_lt.1 fun hl =>
          String.lt_irrefl _ (String.lt_trans hl (hlt e he))⟩
      · exact ⟨hs, String.le_refl _⟩
    · rename_i hne
      obtain ⟨k', hm, hst⟩ := h.value id' key' v hv
      exact ⟨k', by simp [hm], hst.append fun hr hp => absurd ⟨Except.ok.inj (hk.symm.trans hr), hp⟩ hne⟩
  · rw [Dict.get?_insert] at hd
    split at hd
    · cases hd
      exact Dict.isEmpty_insert ..
    · exact h.nonempty id' d hd

/-- Entering the next entry. -/
theorem enter (h : Filled resolve done b) (hg : GlobalIsEmpty resolve) (hlt : ∀ e ∈ done, e.1 < k)
    (hk : resolve (ScopedKey.parse k) = .ok id) :
    Filled resolve (done ++ [(k, value)]) (enter b (ScopedKey.parse k) id value) := by
  rw [h.enter_eq hg hlt hk, Buckets.setValue]
  split
  · rename_i htaken
    exact h.skip hk htaken.1 htaken.2
  · rename_i hfree
    exact h.put hlt hk fun hheld hs => hfree ⟨hheld, hs⟩

theorem fillWith {l : List (String × String)} {b' : Buckets} (h : Filled resolve done b) (hg : GlobalIsEmpty resolve)
    (ha : Ascending (done ++ l)) (hf : fillWith resolve l b = .ok b') : Filled resolve (done ++ l) b' := by
  induction l generalizing done b with
  | nil =>
    cases hf
    simpa using h
  | cons e r ih =>
    obtain ⟨k, value⟩ := e
    have hlt : ∀ e ∈ done, e.1 < k := fun e he => (List.pairwise_append.1 ha).2.2 e he _ (List.mem_cons_self ..)
    rw [FlatAnswers.fillWith] at hf
    rcases hr : resolve (ScopedKey.parse k) with e | id <;> rw [hr] at hf
    · cases hf
    · rw [List.append_cons] at ha ⊢
      exact ih (h.enter hg hlt hr) ha hf

end Filled

end Filling

end FlatAnswers

end MultiCluster
