/-
What reading through a session leaves as it was besides the records: the agreement of the memory with them where there
was one (`Steady`). It is known of the parts of a computation, so it is enough to know it of the calls (`readsSteady`).
What a session has found it goes on remembering (`Recalls`).
-/
import MultiCluster.Proofs.Session.Resolution
namespace MultiCluster

namespace Session

section Memory

variable {σ : Type} [Client σ] {t t' : Session σ}

/-- The later session remembers the projects that the earlier one did. -/
def Recalls (t t' : Session σ) : Prop :=
  ∀ scope id, t.projectIds.get? scope = some id → t'.projectIds.get? scope = some id

theorem projectIds_lookup (kind : Kind) (reference : String) (filters : Dict String) :
    (Client.lookup kind reference filters : Attempt Fault (Session σ) _).Keeps Session.projectIds Eq := by
  rw [lookup_eq_onClient]
  exact fun _ => rfl

theorem projectIds_resolveCluster (reference : String) :
    (resolveCluster reference : Attempt Fault (Session σ) _).Keeps Session.projectIds Eq := by
  refine .bind (.of_run_eq fun _ => rfl) fun t => ?_
  split
  · exact .pure _
  · refine (projectIds_lookup .cluster reference ∅).bind fun c => ?_
    exact fun _ => rfl

theorem projectIds_findProject (scope clusterId : String) :
    (findProject scope clusterId : Attempt Fault (Session σ) _).Keeps Session.projectIds Eq := by
  unfold findProject
  split
  · exact projectIds_lookup .project scope ∅
  · exact projectIds_lookup .project _ _

/-- A scope that was resolved is remembered. -/
theorem remembers_resolveProject {scope id : String} (h : (resolveProject scope).run t = (.ok id, t')) :
    t'.projectIds.get? scope = some id ∧ t.Recalls t' := by
  unfold resolveProject at h
  rw [Attempt.run_bind_ok (Attempt.run_get t)] at h
  cases hm : t.projectIds.get? scope with
  | some id' =>
    rw [hm] at h
    cases h
    exact ⟨hm, fun _ _ h => h⟩
  | none =>
    rw [hm] at h
    obtain ⟨clusterId, t₁, h₁, h⟩ := Attempt.run_bind_eq_ok_iff.1 h
    obtain ⟨p, t₂, h₂, h⟩ := Attempt.run_bind_eq_ok_iff.1 h
    have hsame : t.projectIds = t₂.projectIds :=
      ((projectIds_resolveCluster _).of_run h₁).trans ((projectIds_findProject scope clusterId).of_run h₂)
    cases h
    refine ⟨Dict.get?_insert_self .., fun scope' id' hr => ?_⟩
    dsimp only
    rw [Dict.get?_insert, ← hsame]
    split
    · rename_i he
      rw [he, hr] at hm
      cases hm
    · exact hr

/-- After targets were resolved the memory gives their IDs, in the order of the specifiers. -/
theorem remembers_resolveTargets {specifiers ids : List String}
    (h : (resolveTargets specifiers).run t = (.ok ids, t')) :
    specifiers.map t'.projectIds.get? = ids.map some ∧ t.Recalls t' := by
  induction specifiers generalizing t ids with
  | nil =>
    cases h
    exact ⟨rfl, fun _ _ h => h⟩
  | cons specifier rest ih =>
    obtain ⟨id, t₁, h₁, h⟩ := Attempt.run_bind_eq_ok_iff.1 h
    obtain ⟨ids', t₂, h₂, h⟩ := Attempt.run_bind_eq_ok_iff.1 h
    cases h
    obtain ⟨hid, hrecalls₁⟩ := remembers_resolveProject h₁
    obtain ⟨hids, hrecalls₂⟩ := ih h₂
    refine ⟨?_, fun scope id' hr => hrecalls₂ scope id' (hrecalls₁ scope id' hr)⟩
    rw [List.map_cons, List.map_cons, hids, hrecalls₂ specifier id hid]

/-- There are as many IDs as specifiers. -/
theorem resolved_eq_nil_iff {specifiers ids : List String} (h : (resolveTargets specifiers).run t = (.ok ids, t')) :
    ids = [] ↔ specifiers = [] := by
  have hlength := congrArg List.length (remembers_resolveTargets h).1
  rw [List.length_map, List.length_map] at hlength
  rw [← List.length_eq_zero_iff, ← hlength, List.length_eq_zero_iff]

end Memory

/-- A session on which there was only reading is as sound as before, on the same records. -/
def Steady (t t' : Session Store) : Prop := ∀ s, Sound s t → Sound s t' ∧ t.client.Kept t'.client

namespace Steady

variable {t t' t'' : Session Store}

theorem refl (t : Session Store) : t.Steady t := fun _ h => ⟨h, .refl _⟩

theorem trans (h : t.Steady t') (h' : t'.Steady t'') : t.Steady t'' := fun s hs => by
  obtain ⟨hs', hk⟩ := h s hs
  obtain ⟨hs'', hk'⟩ := h' s hs'
  exact ⟨hs'', hk.trans hk'⟩

instance : IsPreorder (Session Store) Steady where
  refl := refl
  trans _ _ _ := trans

end Steady

variable {α : Type}

theorem steady_answer {c : Call} (h : c.IsRead) : (Client.answer c : Attempt Fault (Session Store) _).Keeps id Steady :=
  fun t _ hs => ⟨hs.kept (Store.readsKeep c h t.client), Store.readsKeep c h t.client⟩

theorem readsSteady : Client.ReadsKeep (σ := Session Store) id Steady := fun _ => steady_answer

theorem steady_lookup (kind : Kind) (reference : String) (filters : Dict String) :
    (Client.lookup kind reference filters : Attempt Fault (Session Store) _).Keeps id Steady :=
  readsSteady.lookup kind reference filters

theorem steady_of_run {x : Attempt Fault (Session Store) α}
    (h : ∀ s t, Sound s t → ∃ r t', x.run t = (r, t') ∧ Sound s t' ∧ t.client.Kept t'.client) : x.Keeps id Steady :=
  fun t s hs => by
    obtain ⟨r, t', ht, hs', hk⟩ := h s t hs
    show Sound s (x.run t).2 ∧ t.client.Kept (x.run t).2.client
    rw [ht]
    exact ⟨hs', hk⟩

theorem steady_resolveTargets (specifiers : List String) :
    (resolveTargets specifiers : Attempt Fault (Session Store) _).Keeps id Steady :=
  steady_of_run fun _ _ hs => ⟨_, run_resolveTargets hs specifiers⟩

end Session

end MultiCluster
