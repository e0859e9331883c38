/-
Versions of template versions, which a session asks for once. A session that has asked a store for some IDs
remembers the versions of exactly these, and the store has counted one fetch for each (`Remembers`). Asking for
another ID gives what the store holds under it and keeps that so (`run_versionOf`), whether the ID is new or not.
-/
import MultiCluster.Proofs.Lifecycle.Proposal
import Mathlib
namespace MultiCluster

variable {s t : Store} {ids : Finset String}

namespace Store

theorem fetchesOf_countFetch (kind kind' : Kind) (id id' : String) (s : Store) :
    (s.countFetch kind id).fetchesOf kind' id' = s.fetchesOf kind' id' + if kind' = kind ∧ id' = id then 1 else 0 := by
  unfold fetchesOf countFetch
  by_cases hkind : kind' = kind
  · subst hkind
    rw [ByKind.get_set_self, Dict.get?_insert]
    by_cases hid : id' = id
    · subst hid
      simp [fetchesOf]
    · simp [hid, Ne.symm hid]
  · simp [ByKind.get_set_of_ne _ _ hkind, hkind]

/-- Reading that has fetched the template versions with the IDs `ids` once each, and nothing else by its ID. -/
structure Asked (s : Store) (ids : Finset String) (t : Store) : Prop where
  kept : s.Kept t
  fetches : ∀ kind id, t.fetchesOf kind id = s.fetchesOf kind id + if kind = .templateVersion ∧ id ∈ ids then 1 else 0

theorem PagesOnly.asked (h : s.PagesOnly t) : s.Asked ∅ t where
  kept := h.kept
  fetches kind id := by
    rw [PagesOnly] at h
    rw [h]
    simp [fetchesOf]

/-- Fetching a new ID. -/
theorem Asked.countFetch (h : s.Asked ids t) {id : String} (hid : id ∉ ids) :
    s.Asked (ids ∪ {id}) (t.countFetch .templateVersion id) where
  kept := h.kept.trans (kept_countFetch .templateVersion id t)
  fetches kind id' := by
    rw [fetchesOf_countFetch, h.fetches]
    grind

/-- The version that a template version has. -/
def versionOf (id : String) (s : Store) : Except Fault String :=
  (s.stored .templateVersion id).map TemplateVersion.version

end Store

namespace Session

/-- The session has asked the store for the versions of the IDs `ids`, found them all and remembers them. -/
structure Remembers (s : Store) (ids : Finset String) (t : Session Store) : Prop where
  asked : s.Asked ids t.client
  versions : ∀ id, t.versions.get? id = if id ∈ ids then (s.versionOf id).toOption else none
  found : ∀ id ∈ ids, ∃ v, s.versionOf id = .ok v

theorem remembers_fresh (h : s.PagesOnly t) : Remembers s ∅ { client := t } where
  asked := h.asked
  versions _ := rfl
  found _ h := absurd h (Finset.notMem_empty _)

/-- The version is the stored one. The ID has been asked for afterwards, and is remembered if it was found. -/
theorem run_versionOf (hu : s.Unscripted .templateVersion) {t : Session Store} (h : Remembers s ids t) (id : String) :
    ∃ t', (versionOf id).run t = (s.versionOf id, t') ∧ s.Asked (ids ∪ {id}) t'.client ∧
      ((∃ v, s.versionOf id = .ok v) → Remembers s (ids ∪ {id}) t') := by
  unfold versionOf
  rw [Attempt.run_bind_ok (Attempt.run_get t), h.versions]
  by_cases hid : id ∈ ids
  -- asked before: the session knows it, and the client is left alone
  · obtain ⟨v, hv⟩ := h.found id hid
    rw [if_pos hid, Finset.union_eq_left.2 (Finset.singleton_subset_iff.2 hid), hv]
    exact ⟨t, rfl, h.asked, fun _ => h⟩
  -- new: the client is asked, and what it finds is remembered
  · have hfetch := Session.run_byId (t := t) (h.asked.kept.unscripted _ hu id)
    rw [h.asked.kept.stored_eq] at hfetch
    have hasked := h.asked.countFetch hid
    rw [if_neg hid]
    dsimp only
    cases hstored : s.stored .templateVersion id with
    | error e =>
      have hversion : s.versionOf id = .error e := by rw [Store.versionOf, hstored]; rfl
      rw [hstored] at hfetch
      rw [Attempt.run_bind_error hfetch, hversion]
      exact ⟨_, rfl, hasked, by rintro ⟨v, ⟨⟩⟩⟩
    | ok r =>
      have hversion : s.versionOf id = .ok (TemplateVersion.version r) := by rw [Store.versionOf, hstored]; rfl
      rw [hstored] at hfetch
      rw [Attempt.run_bind_ok hfetch, hversion]
      refine ⟨_, rfl, hasked, fun _ => ⟨hasked, fun id' => ?_, fun id' hid' => ?_⟩⟩
      · show (t.versions.insert id _).get? id' = _
        rw [Dict.get?_insert, h.versions]
        by_cases hsame : id = id'
        · subst hsame
          simp [hversion, Except.toOption]
        · simp [hsame, Ne.symm hsame]
      · rcases Finset.mem_union.1 hid' with hold | hnew
        · exact h.found id' hold
        · rw [Finset.mem_singleton.1 hnew]
          exact ⟨_, hversion⟩

end Session

end MultiCluster
