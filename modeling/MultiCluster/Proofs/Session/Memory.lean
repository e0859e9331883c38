/-
What it makes of a session that it remembers. Whatever is asked of a session is a list of references that are
resolved one after the other (`Query.ask_eq`). On a directory that stays as it is, asking gives what a new
session would give, and what has been resolved is not asked of the client again (`Course.transparent`). Only
what was found is remembered; so a record that was missing is found once it is there, while what was found
before it came stays as it was (`answers_remember`).
-/
import MultiCluster.Proofs.Answers.Filling
import MultiCluster.Proofs.Session.Steady
import MultiCluster.Proofs.Store.Reachable
import Mathlib
namespace MultiCluster

/-! ## References and queries -/

/-- What a session resolves: a cluster, the scope of a project, or nothing, as for an answer that is global. -/
inductive Reference where
  | global
  | cluster (reference : String)
  | project (scope : String)
  deriving DecidableEq

namespace Reference

variable {σ : Type} [Client σ]

def ofKey : ScopedKey → Reference
  | .global _ => .global
  | .cluster c _ => .cluster c
  | .project c p _ => .project (joinScope c p)

def resolve : Reference → Attempt Fault (Session σ) String
  | .global => return ""
  | .cluster reference => Session.resolveCluster reference
  | .project scope => Session.resolveProject scope

/-- The IDs of references, in their order. -/
def resolveAll : List Reference → Attempt Fault (Session σ) (List String)
  | [] => return []
  | r :: rest => do
    let id ← resolve r
    return id :: (← resolveAll rest)

/-- What is resolved for the reference: for a project its cluster, and then itself. -/
def parts : Reference → List Reference
  | .global => []
  | .cluster reference => [.cluster reference]
  | .project scope => [.cluster (splitScope scope).1, .project scope]

end Reference

/-- What can be asked of a session. -/
inductive Query where
  | cluster (reference : String)
  | project (scope : String)
  | targets (specifiers : List String)
  | answers (flat : FlatAnswers)

namespace Query

variable {σ : Type} [Client σ]

abbrev Reply : Query → Type
  | .cluster _ => String
  | .project _ => String
  | .targets _ => List String
  | .answers _ => List Answer

def ask : (q : Query) → Attempt Fault (Session σ) q.Reply
  | .cluster reference => Session.resolveCluster reference
  | .project scope => Session.resolveProject scope
  | .targets specifiers => Session.resolveTargets specifiers
  | .answers flat => flat.toAnswers

def references : Query → List Reference
  | .cluster reference => [.cluster reference]
  | .project scope => [.project scope]
  | .targets specifiers => specifiers.map .project
  | .answers flat => flat.toList.map fun e => .ofKey (ScopedKey.parse e.1)

/-- Enters answers whose scopes have the IDs beside them. -/
def enterAll (b : Buckets) (l : List ((String × String) × String)) : Buckets :=
  l.foldl (fun b e => FlatAnswers.enter b (ScopedKey.parse e.1.1) e.2 e.1.2) b

/-- What is made of the IDs of the references. -/
def reply : (q : Query) → List String → q.Reply
  | .cluster _, ids => ids.headD ""
  | .project _, ids => ids.headD ""
  | .targets _, ids => ids
  | .answers flat, ids => (enterAll ∅ (flat.toList.zip ids)).toAnswers

theorem resolveTargets_eq (specifiers : List String) :
    (Session.resolveTargets specifiers : Attempt Fault (Session σ) _) =
      Reference.resolveAll (specifiers.map .project) := by
  induction specifiers with
  | nil => rfl
  | cons specifier rest ih => rw [Session.resolveTargets, ih, List.map_cons, Reference.resolveAll]; rfl

theorem resolve_ofKey (k : ScopedKey) :
    ((Reference.ofKey k).resolve : Attempt Fault (Session σ) _) = FlatAnswers.resolveScope k := by
  cases k <;> rfl

theorem fill_eq (l : List (String × String)) (b : Buckets) : (FlatAnswers.fill l b : Attempt Fault (Session σ) _) =
    (fun ids => enterAll b (l.zip ids)) <$> Reference.resolveAll (l.map fun e => .ofKey (ScopedKey.parse e.1)) := by
  induction l generalizing b with
  | nil => rfl
  | cons e l ih =>
    rw [List.map_cons, Reference.resolveAll, FlatAnswers.fill, resolve_ofKey, map_bind]
    refine congrArg (_ >>= ·) (funext fun id => ?_)
    rw [ih, map_bind, map_eq_pure_bind]
    simp only [map_pure]
    rfl

/-- To ask is to resolve the references, and to put their IDs together. -/
theorem ask_eq (q : Query) : (q.ask : Attempt Fault (Session σ) _) = q.reply <$> Reference.resolveAll q.references := by
  cases q with
  | cluster | project => simp [ask, reply, references, Reference.resolveAll, Reference.resolve]
  | targets specifiers =>
    show Session.resolveTargets specifiers = id <$> Reference.resolveAll (specifiers.map .project)
    rw [resolveTargets_eq, id_map]
  | answers flat =>
    show Buckets.toAnswers <$> FlatAnswers.fill flat.toList ∅ = _
    rw [fill_eq, ← comp_map]
    rfl

theorem run_ask (q : Query) (t : Session σ) :
    q.ask.run t = (((Reference.resolveAll q.references).run t).1.map q.reply,
      ((Reference.resolveAll q.references).run t).2) := by
  rw [ask_eq]
  show Attempt.bind _ _ t = _
  unfold Attempt.bind Attempt.run
  rcases Reference.resolveAll q.references t with ⟨_ | ids, t'⟩ <;> rfl

end Query

/-! ## What a session finds -/

namespace Session

/-- The ID that the session finds for a reference. -/
def idOf (t : Session Store) : Reference → Except Fault String
  | .global => .ok ""
  | .cluster reference => t.clusterIdOf reference
  | .project scope => t.projectIdOf scope

variable {s : Store} {t t' : Session Store}

theorem Resumes.idOf (h : t.Resumes t') (r : Reference) : t'.idOf r = t.idOf r := by
  cases r with
  | global => rfl
  | cluster reference => exact h.clusters reference
  | project scope => exact h.projects scope

section Unscripted

variable (hc : t.client.Unscripted .cluster) (hp : t.client.Unscripted .project)
include hc hp

theorem resumes_resolve (r : Reference) : ∃ t', r.resolve.run t = (t.idOf r, t') ∧ t.Resumes t' := by
  cases r with
  | global => exact ⟨t, rfl, .refl t⟩
  | cluster reference => exact resumes_resolveCluster hc reference
  | project scope => exact resumes_resolveProject hc hp scope

theorem resumes_resolveAll (l : List Reference) :
    ∃ t', (Reference.resolveAll l).run t = (l.mapM t.idOf, t') ∧ t.Resumes t' := by
  induction l generalizing t with
  | nil => exact ⟨t, rfl, .refl t⟩
  | cons r l ih =>
    obtain ⟨t₁, h₁, hr₁⟩ := resumes_resolve hc hp r
    obtain ⟨t₂, h₂, hr₂⟩ := ih (hr₁.kept.unscripted _ hc) (hr₁.kept.unscripted _ hp)
    rw [mapM_congr fun r _ => hr₁.idOf r] at h₂
    rw [Reference.resolveAll, List.mapM_cons]
    rcases hid : t.idOf r with e | id <;> rw [hid] at h₁
    · exact ⟨t₁, Attempt.run_bind_error h₁, hr₁⟩
    · rw [Attempt.run_bind_ok h₁]
      rcases hids : l.mapM t.idOf with e | ids <;> rw [hids] at h₂
      · exact ⟨t₂, Attempt.run_bind_error h₂, hr₁.trans hr₂⟩
      · exact ⟨t₂, Attempt.run_bind_ok h₂, hr₁.trans hr₂⟩

/-- What is asked is answered with what the session finds. -/
theorem resumes_ask (q : Query) : ∃ t', q.ask.run t = ((q.references.mapM t.idOf).map q.reply, t') ∧ t.Resumes t' := by
  obtain ⟨t', ht, hr⟩ := resumes_resolveAll hc hp q.references
  exact ⟨t', by rw [Query.run_ask, ht], hr⟩

end Unscripted

/-- Sessions that find the same for its references reply alike to a query. -/
theorem reply_congr (t t' : Session Store) (hc : t.client.Unscripted .cluster) (hp : t.client.Unscripted .project)
    (hc' : t'.client.Unscripted .cluster) (hp' : t'.client.Unscripted .project) {q : Query}
    (h : ∀ r ∈ q.references, t.idOf r = t'.idOf r) : (q.ask.run t).1 = (q.ask.run t').1 := by
  obtain ⟨u, hu, -⟩ := resumes_ask hc hp q
  obtain ⟨u', hu', -⟩ := resumes_ask hc' hp' q
  rw [hu, hu', mapM_congr h]

end Session

/-! ## What a session remembers -/

namespace Session

variable {σ : Type}

/-- The ID that the session remembers for a reference. -/
def remembered (t : Session σ) : Reference → Option String
  | .global => some ""
  | .cluster reference => t.clusterIds.get? reference
  | .project scope => t.projectIds.get? scope

/-- The later session remembers all that the earlier one did. -/
def Retains (t t' : Session σ) : Prop := ∀ r, (t.remembered r).isSome → (t'.remembered r).isSome

/-- A project is remembered with its cluster. -/
def Whole (t : Session σ) : Prop :=
  ∀ scope, (t.remembered (.project scope)).isSome → (t.remembered (.cluster (splitScope scope).1)).isSome

theorem remembered_rememberCluster (t : Session σ) (reference id : String) (r : Reference) :
    ({ t with clusterIds := t.clusterIds.insert reference id } : Session σ).remembered r =
      if r = .cluster reference then some id else t.remembered r := by
  cases r with
  | global | project => rfl
  | cluster reference' =>
    show (t.clusterIds.insert reference id).get? reference' = _
    simp [Dict.get?_insert, remembered, eq_comm]

theorem remembered_rememberProject (t : Session σ) (scope id : String) (r : Reference) :
    ({ t with projectIds := t.projectIds.insert scope id } : Session σ).remembered r =
      if r = .project scope then some id else t.remembered r := by
  cases r with
  | global | cluster => rfl
  | project scope' =>
    show (t.projectIds.insert scope id).get? scope' = _
    simp [Dict.get?_insert, remembered, eq_comm]

variable [Client σ] {t t' : Session σ}

/-- What is remembered is not asked of the client. -/
theorem resolve_of_remembered {r : Reference} {id : String} (h : t.remembered r = some id) :
    r.resolve.run t = (.ok id, t) := by
  cases r with
  | global =>
    cases h
    rfl
  | cluster reference =>
    change t.clusterIds.get? reference = some id at h
    show (resolveCluster reference).run t = _
    unfold resolveCluster
    rw [Attempt.run_bind_ok (Attempt.run_get t), h]
    rfl
  | project scope =>
    change t.projectIds.get? scope = some id at h
    show (resolveProject scope).run t = _
    unfold resolveProject
    rw [Attempt.run_bind_ok (Attempt.run_get t), h]
    rfl

theorem resolveAll_of_remembered {l : List Reference} {ids : List String} (h : l.map t.remembered = ids.map some) :
    (Reference.resolveAll l).run t = (.ok ids, t) := by
  induction l generalizing ids with
  | nil =>
    obtain rfl : ids = [] := List.map_eq_nil_iff.1 h.symm
    rfl
  | cons r l ih =>
    obtain ⟨id, ids', rfl, hr, hl⟩ := List.map_eq_cons_iff.1 h.symm
    rw [Reference.resolveAll, Attempt.run_bind_ok (resolve_of_remembered hr.symm), Attempt.run_bind_ok (ih hl.symm)]
    rfl

omit [Client σ] in
theorem exists_ids {l : List Reference} (h : ∀ r ∈ l, (t.remembered r).isSome) :
    ∃ ids : List String, l.map t.remembered = ids.map some := by
  induction l with
  | nil => exact ⟨[], rfl⟩
  | cons r l ih =>
    obtain ⟨hr, hl⟩ := List.forall_mem_cons.1 h
    obtain ⟨id, hid⟩ := Option.isSome_iff_exists.1 hr
    obtain ⟨ids, hids⟩ := ih hl
    exact ⟨id :: ids, by rw [List.map_cons, List.map_cons, hid, hids]⟩

omit [Client σ] in
theorem remembered_of_onClient {α : Type} {x : Attempt Fault σ α} {res : Except Fault α}
    (h : (onClient x).run t = (res, t')) (r : Reference) : t'.remembered r = t.remembered r := by
  rw [run_onClient] at h
  cases h
  cases r <;> rfl

theorem remembered_of_findProject {scope clusterId : String} {res : Except Fault Project}
    (h : (findProject scope clusterId).run t = (res, t')) (r : Reference) : t'.remembered r = t.remembered r := by
  unfold findProject at h
  split at h <;>
  · rw [lookup_eq_onClient] at h
    exact remembered_of_onClient h r

/-- A cluster that is resolved is remembered, and nothing else changes. -/
theorem remembered_of_resolveCluster {reference : String} {res : Except Fault String}
    (h : (resolveCluster reference).run t = (res, t')) (r : Reference) :
    t'.remembered r = if r = .cluster reference then res.toOption else t.remembered r := by
  unfold resolveCluster at h
  rw [Attempt.run_bind_ok (Attempt.run_get t)] at h
  cases hm : t.clusterIds.get? reference with
  | some id =>
    rw [hm] at h
    cases h
    split
    · rename_i hr
      rw [hr]
      exact hm
    · rfl
  | none =>
    rw [hm] at h
    dsimp only at h
    rcases hl : (Client.lookup .cluster reference ∅).run t with ⟨e | c, t₁⟩
    all_goals
      have hsame : ∀ r, t₁.remembered r = t.remembered r := by
        rw [lookup_eq_onClient] at hl
        exact remembered_of_onClient hl
    · rw [Attempt.run_bind_error hl] at h
      cases h
      rw [hsame]
      split
      · rename_i hr
        rw [hr]
        exact hm
      · rfl
    · rw [Attempt.run_bind_ok hl] at h
      cases h
      rw [← hsame]
      exact remembered_rememberCluster t₁ reference _ r

/-- A project that is resolved is remembered, and so is its cluster on the way. -/
theorem remembered_of_resolveProject {scope : String} {res : Except Fault String}
    (h : (resolveProject scope).run t = (res, t')) (r : Reference) :
    t'.remembered r = if r = .project scope then res.toOption
      else if r = .cluster (splitScope scope).1 ∧ t.remembered (.project scope) = none then
        ((resolveCluster (splitScope scope).1).run t).1.toOption
      else t.remembered r := by
  unfold resolveProject at h
  rw [Attempt.run_bind_ok (Attempt.run_get t)] at h
  cases hm : t.projectIds.get? scope with
  | some id =>
    rw [hm] at h
    cases h
    have hhit : t.remembered (.project scope) = some id := hm
    rw [hhit]
    split
    · rename_i hr
      rw [hr, hhit]
      rfl
    · rw [if_neg (by simp)]
  | none =>
    rw [hm] at h
    dsimp only at h
    have hmiss : t.remembered (.project scope) = none := hm
    simp only [hmiss, and_true]
    -- the project is remembered once its cluster and then itself were found
    rcases hc : (resolveCluster (splitScope scope).1).run t with ⟨e | c, t₁⟩
    all_goals have h₁ := remembered_of_resolveCluster hc
    · rw [Attempt.run_bind_error hc] at h
      cases h
      by_cases hr : r = .project scope
      · rw [h₁, hr, if_neg (by simp), hmiss, if_pos rfl]
        rfl
      · rw [h₁, if_neg hr]
    · rw [Attempt.run_bind_ok hc] at h
      rcases hp : (findProject scope c).run t₁ with ⟨e | project, t₂⟩
      all_goals have h₂ := remembered_of_findProject hp
      · rw [Attempt.run_bind_error hp] at h
        cases h
        by_cases hr : r = .project scope
        · rw [h₂, h₁, hr, if_neg (by simp), hmiss, if_pos rfl]
          rfl
        · rw [h₂, h₁, if_neg hr]
      · rw [Attempt.run_bind_ok hp] at h
        cases h
        refine (remembered_rememberProject t₂ scope _ r).trans ?_
        rw [h₂, h₁]
        rfl

/-- A project is found when it is remembered, or when its cluster is found first. -/
theorem cluster_of_resolveProject {scope id : String} (h : (resolveProject scope).run t = (.ok id, t')) :
    (t.remembered (.project scope)).isSome ∨ ∃ c u, (resolveCluster (splitScope scope).1).run t = (.ok c, u) := by
  unfold resolveProject at h
  rw [Attempt.run_bind_ok (Attempt.run_get t)] at h
  cases hm : t.projectIds.get? scope with
  | some id' => exact .inl (Option.isSome_of_eq_some hm)
  | none =>
    rw [hm] at h
    obtain ⟨c, u, hc, -⟩ := Attempt.run_bind_eq_ok_iff.1 h
    exact .inr ⟨c, u, hc⟩

/-- Resolving forgets nothing. -/
theorem retains_resolve {r : Reference} {res : Except Fault String} (h : r.resolve.run t = (res, t')) :
    t.Retains t' := by
  intro q hq
  obtain ⟨id, hid⟩ := Option.isSome_iff_exists.1 hq
  -- what is remembered and resolved once more is found
  have hagain : q = r → res = .ok id := by
    rintro rfl
    exact (Prod.mk.inj (h.symm.trans (resolve_of_remembered hid))).1
  cases r with
  | global =>
    cases h
    exact hq
  | cluster reference =>
    rw [remembered_of_resolveCluster h]
    split
    · rename_i he
      rw [hagain he]
      rfl
    · exact hq
  | project scope =>
    rw [remembered_of_resolveProject h]
    split
    · rename_i he
      rw [hagain he]
      rfl
    · split
      · rename_i he
        rw [he.1] at hid
        have hrun : (resolveCluster (splitScope scope).1).run t = (.ok id, t) := resolve_of_remembered hid
        rw [hrun]
        rfl
      · exact hq

/-- A project that is resolved leaves its cluster remembered, if that was found. -/
theorem remembers_cluster (hw : t.Whole) {scope : String} {res : Except Fault String}
    (h : (resolveProject scope).run t = (res, t')) {id : String} {u : Session σ}
    (hrun : (resolveCluster (splitScope scope).1).run t = (.ok id, u)) :
    (t'.remembered (.cluster (splitScope scope).1)).isSome := by
  rw [remembered_of_resolveProject h, if_neg (by simp)]
  split
  · rw [hrun]
    rfl
  · rename_i hhit
    exact hw scope (Option.isSome_iff_ne_none.2 fun hnone => hhit ⟨rfl, hnone⟩)

theorem whole_resolve (hw : t.Whole) {r : Reference} {res : Except Fault String} (h : r.resolve.run t = (res, t')) :
    t'.Whole := by
  have hretains := retains_resolve h
  intro scope hs
  cases r with
  | global =>
    cases h
    exact hw scope hs
  | cluster reference =>
    rw [remembered_of_resolveCluster h, if_neg (by simp)] at hs
    exact hretains _ (hw scope hs)
  | project scope' =>
    rw [remembered_of_resolveProject h] at hs
    split at hs
    · rename_i he
      cases he
      cases res with
      | error e => cases hs
      | ok id =>
        rcases cluster_of_resolveProject h with hhit | ⟨c, u, hc⟩
        · exact hretains _ (hw _ hhit)
        · exact remembers_cluster hw h hc
    · rw [if_neg (by simp)] at hs
      exact hretains _ (hw scope hs)

/-- What is found in resolving a reference is remembered. -/
theorem remembers_resolve {r : Reference} {id : String} (h : r.resolve.run t = (.ok id, t')) :
    (t'.remembered r).isSome := by
  cases r with
  | global => rfl
  | cluster reference =>
    rw [remembered_of_resolveCluster h, if_pos rfl]
    rfl
  | project scope =>
    rw [remembered_of_resolveProject h, if_pos rfl]
    rfl

/-- Resolving a reference leaves what was remembered, and adds what was found on the way. -/
theorem learns_resolve (hw : t.Whole) {r : Reference} {res : Except Fault String} (h : r.resolve.run t = (res, t')) :
    t.Retains t' ∧ t'.Whole ∧ ∀ p ∈ r.parts, ∀ id u, p.resolve.run t = (.ok id, u) → (t'.remembered p).isSome := by
  refine ⟨retains_resolve h, whole_resolve hw h, fun p hp id u hrun => ?_⟩
  have hself : p = r → (t'.remembered p).isSome := by
    rintro rfl
    obtain ⟨rfl, rfl⟩ := Prod.mk.inj (h.symm.trans hrun)
    exact remembers_resolve h
  cases r with
  | global => cases hp
  | cluster reference => exact hself (List.mem_singleton.1 hp)
  | project scope =>
    rcases List.mem_cons.1 hp with rfl | hp
    · exact remembers_cluster hw h hrun
    · exact hself (List.mem_singleton.1 hp)

end Session

/-! ## Sessions over a while -/

/-- The reference is one that a new session on the store resolves. -/
def Store.finds (s : Store) (r : Reference) : Bool := (r.resolve.run ({ client := s } : Session Store)).1.isOk

/-- What is resolved for the query on the store: a query ends at the first part that is not found. -/
def Query.settled (q : Query) (s : Store) : List Reference := (q.references.flatMap Reference.parts).takeWhile s.finds

/-- What a session that is new on `s` comes to be while queries are asked of it and anything else is done to
its client that leaves the clusters and projects as they are; with all that was resolved in between. -/
inductive Course (s : Store) : List Reference → Session Store → Prop
  | fresh (hc : s.Unscripted .cluster) (hp : s.Unscripted .project) : Course s [] { client := s }
  | asked {known : List Reference} {t : Session Store} (q : Query) (h : Course s known t) :
      Course s (known ++ q.settled s) (q.ask.run t).2
  | other {known : List Reference} {t : Session Store} {u : Store} (h : Course s known t) (hu : s.SameDirectory u) :
      Course s known { t with client := u }

/-- The session on a client that records the calls. -/
def Session.traced {σ : Type} (t : Session σ) : Session (Traced σ) :=
  { client := ⟨t.client, []⟩, clusterIds := t.clusterIds, projectIds := t.projectIds, versions := t.versions }

namespace Session

variable {s : Store} {t t' : Session Store}

theorem mem_takeWhile_append {α : Type} {p : α → Bool} {l l' : List α} {x : α} (h : x ∈ (l ++ l').takeWhile p) :
    (x ∈ l ∧ p x) ∨ ((∀ y ∈ l, p y) ∧ x ∈ l'.takeWhile p) := by
  rw [List.takeWhile_append] at h
  split at h
  · rename_i hlength
    have hall : l.takeWhile p = l := (List.takeWhile_prefix p).eq_of_length hlength
    have hp : ∀ y ∈ l, p y := List.takeWhile_eq_self_iff.1 hall
    rcases List.mem_append.1 h with hx | hx
    · exact .inl ⟨hx, hp x hx⟩
    · exact .inr ⟨hp, hx⟩
  · exact .inl ⟨List.takeWhile_subset p h, List.mem_takeWhile_imp h⟩

/-- A reference is found when its parts are. -/
theorem exists_idOf_of_parts {r : Reference} (h : ∀ p ∈ r.parts, (t.idOf p).isOk) : ∃ id, t.idOf r = .ok id := by
  have hok : (t.idOf r).isOk := by
    cases r with
    | global => rfl
    | cluster reference => exact h _ (List.mem_singleton_self _)
    | project scope => exact h (.project scope) (by simp [Reference.parts])
  cases hid : t.idOf r with
  | error e => rw [hid] at hok; cases hok
  | ok id => exact ⟨id, rfl⟩

/-- What is found on the way through some references is remembered. -/
theorem learns_resolveAll (hc : t.client.Unscripted .cluster) (hp : t.client.Unscripted .project) (hw : t.Whole)
    {l : List Reference} {res : Except Fault (List String)} (h : (Reference.resolveAll l).run t = (res, t')) :
    t.Retains t' ∧ t'.Whole ∧
      ∀ r ∈ (l.flatMap Reference.parts).takeWhile fun r => (t.idOf r).isOk, (t'.remembered r).isSome := by
  induction l generalizing t t' res with
  | nil =>
    cases h
    exact ⟨fun _ h => h, hw, fun r hr => by cases hr⟩
  | cons r l ih =>
    obtain ⟨t₁, h₁, hr₁⟩ := resumes_resolve hc hp r
    obtain ⟨hretains, hwhole, hlearns⟩ := learns_resolve hw h₁
    have hfirst : ∀ p ∈ r.parts, (t.idOf p).isOk → (t₁.remembered p).isSome := fun p hmem hok => by
      obtain ⟨u, hu, -⟩ := resumes_resolve hc hp p
      cases hid : t.idOf p with
      | error e => rw [hid] at hok; cases hok
      | ok id => exact hlearns p hmem id u (hid ▸ hu)
    rw [List.flatMap_cons]
    rcases hid : t.idOf r with e | id <;> rw [hid] at h₁
    · rw [Reference.resolveAll, Attempt.run_bind_error h₁] at h
      cases h
      refine ⟨hretains, hwhole, fun x hx => ?_⟩
      rcases mem_takeWhile_append hx with ⟨hx, hok⟩ | ⟨hall, -⟩
      · exact hfirst x hx hok
      · obtain ⟨id, hid'⟩ := exists_idOf_of_parts hall
        cases hid.symm.trans hid'
    · rw [Reference.resolveAll, Attempt.run_bind_ok h₁] at h
      rcases hrest : (Reference.resolveAll l).run t₁ with ⟨res', t₂⟩
      obtain ⟨hretains₂, hwhole₂, hlearns₂⟩ :=
        ih (hr₁.kept.unscripted _ hc) (hr₁.kept.unscripted _ hp) hwhole hrest
      have hend : t' = t₂ := by
        cases res' with
        | error e => rw [Attempt.run_bind_error hrest] at h; cases h; rfl
        | ok ids => rw [Attempt.run_bind_ok hrest] at h; cases h; rfl
      subst hend
      refine ⟨fun r hr => hretains₂ r (hretains r hr), hwhole₂, fun x hx => ?_⟩
      rcases mem_takeWhile_append hx with ⟨hx, hok⟩ | ⟨-, hx⟩
      · exact hretains₂ x (hfirst x hx hok)
      · refine hlearns₂ x ?_
        simpa only [hr₁.idOf] using hx

/-- Sessions that are sound on the same records find the same. -/
theorem Sound.idOf_eq (h : Sound s t) (h' : Sound s t') (r : Reference) : t.idOf r = t'.idOf r := by
  cases r with
  | global => rfl
  | cluster reference => exact (h.clusterIdOf_eq reference).trans (h'.clusterIdOf_eq reference).symm
  | project scope => exact (h.projectIdOf_eq scope).trans (h'.projectIdOf_eq scope).symm

theorem Sound.renew (h : Sound s t) : Sound s t.renew := sound_fresh h.directory

theorem Sound.isOk_idOf (h : Sound s t) (hs : Sound s { client := s }) (r : Reference) :
    (t.idOf r).isOk = s.finds r := by
  obtain ⟨u, hu, -⟩ := resumes_resolve hs.directory.clusterScripts hs.directory.projectScripts r
  rw [Store.finds, hu, h.idOf_eq hs]

theorem idOf_of_remembered {r : Reference} {id : String} (h : t.remembered r = some id) : t.idOf r = .ok id := by
  cases r with
  | global => cases h; rfl
  | cluster reference => exact clusterIdOf_of_remembered h
  | project scope => exact projectIdOf_of_remembered h

/-- What is remembered makes no difference to a reference where its parts still stand for the same. -/
theorem idOf_of_stands {u : Store} {r : Reference}
    (h : ∀ p ∈ r.parts, ∀ id, t.remembered p = some id → ({ client := u } : Session Store).idOf p = .ok id) :
    ({ t with client := u } : Session Store).idOf r = ({ client := u } : Session Store).idOf r := by
  have hcluster : ∀ reference, Reference.cluster reference ∈ r.parts →
      ({ t with client := u } : Session Store).clusterIdOf reference = u.clusterIdOf reference := fun reference hp => by
    unfold Session.clusterIdOf
    cases hm : t.clusterIds.get? reference with
    | some id => exact (h _ hp id hm).symm
    | none => rfl
  cases r with
  | global => rfl
  | cluster reference => exact hcluster reference (List.mem_singleton_self _)
  | project scope =>
    have hpart := hcluster (splitScope scope).1 (by simp [Reference.parts])
    show Session.projectIdOf _ scope = _
    unfold Session.projectIdOf
    cases hm : t.projectIds.get? scope with
    | some id => exact (h (.project scope) (by simp [Reference.parts]) id hm).symm
    | none =>
      dsimp only
      rw [hpart]
      rfl

end Session

/-- What is missing is of the kind that was looked up. -/
theorem Store.kind_of_notFound {s : Store} {kind kind' : Kind} {reference name : String} {filters : Dict String}
    (h : s.lookedUp kind reference filters = .error (.notFound kind' name)) : kind' = kind := by
  unfold lookedUp at h
  split at h
  · cases h
    rfl
  · split at h
    · cases hg : s.get? kind reference <;> rw [hg] at h <;> cases h
      rfl
    · cases h
    · cases h

namespace Course

open Session

variable {s : Store} {known : List Reference} {t : Session Store}

/-- All along the session is sound, and remembers all that was resolved. -/
theorem invariant (h : Course s known t) :
    Sound s { client := s } ∧ Sound s t ∧ t.Whole ∧ ∀ r ∈ known, (t.remembered r).isSome := by
  induction h with
  | fresh hc hp =>
    have hs := sound_fresh (.refl hc hp)
    exact ⟨hs, hs, fun scope h => (by cases h), fun r hr => (by cases hr)⟩
  | @asked known t q _ ih =>
    obtain ⟨hs, hsound, hwhole, hknown⟩ := ih
    obtain ⟨t', ht, hr⟩ := resumes_ask hsound.directory.clusterScripts hsound.directory.projectScripts q
    have hrun : ((Reference.resolveAll q.references).run t) = (((Reference.resolveAll q.references).run t).1, t') := by
      rw [Query.run_ask] at ht
      exact Prod.ext rfl (Prod.mk.inj ht).2
    obtain ⟨hretains, hwhole', hlearns⟩ := learns_resolveAll hsound.directory.clusterScripts
      hsound.directory.projectScripts hwhole hrun
    rw [ht]
    refine ⟨hs, hsound.resumes hr, hwhole', fun r hr => ?_⟩
    rcases List.mem_append.1 hr with hr | hr
    · exact hretains r (hknown r hr)
    · refine hlearns r ?_
      simpa only [Query.settled, hsound.isOk_idOf hs] using hr
  | other _ hu ih =>
    obtain ⟨hs, hsound, hwhole, hknown⟩ := ih
    exact ⟨hs, ⟨hu, hsound.clusters, hsound.projects⟩, fun scope => hwhole scope, fun r hr => by
      have := hknown r hr
      cases r <;> exact this⟩

/-- Where a reference is missing, the parts of it that are remembered still stand for the same once a record
of the missing kind has come. -/
theorem stands_of_missing (h : Sound s t) {r : Reference} {kind : Kind} {name : String} (record : kind.Record)
    (hr : t.idOf r = .error (.notFound kind name)) {p : Reference} (hp : p ∈ r.parts) {id : String}
    (hid : t.remembered p = some id) :
    ({ client := t.client.insert kind record } : Session Store).idOf p = .ok id := by
  have hfound : t.idOf p = .ok id := idOf_of_remembered hid
  cases r with
  | global => cases hp
  | cluster reference =>
    obtain rfl := List.mem_singleton.1 hp
    cases hr.symm.trans hfound
  | project scope =>
    rcases List.mem_cons.1 hp with rfl | hp
    · have hcluster : t.renew.clusterIdOf (splitScope scope).1 = .ok id :=
        (h.idOf_eq h.renew (.cluster _)).symm.trans hfound
      have hproject : t.renew.projectIdOf scope = .error (.notFound kind name) :=
        (h.idOf_eq h.renew (.project scope)).symm.trans hr
      -- its cluster was found, so what is missing is a project
      have hin : (t.client.projectIn scope id).map Project.id = .error (.notFound kind name) := by
        change t.renew.clusterIdOf _ >>= _ = _ at hproject
        rw [hcluster] at hproject
        exact hproject
      have hkind : kind = .project := by
        unfold Store.projectIn at hin
        split at hin <;>
        · rcases hl : t.client.lookedUp .project _ _ with e | found <;> rw [hl] at hin <;> cases hin
          exact Store.kind_of_notFound hl
      subst hkind
      have hrecords : (t.client.insert .project record).records.get .cluster = t.client.records.get .cluster := rfl
      exact (Store.clusterIdOf_congr hrecords _).trans hcluster
    · obtain rfl := List.mem_singleton.1 hp
      cases hr.symm.trans hfound

/-- Over any course on one directory, whatever is asked is answered as by a new session; a query whose
references have all been resolved asks nothing of the client; a reference that is not found is not remembered;
and when the record that was missing for a reference has come, a query is answered as by a new session if the
parts of its other references that are remembered still stand for the same. -/
theorem transparent (h : Course s known t) :
    (∀ q : Query, (q.ask.run t).1 = (q.ask.run t.renew).1) ∧
    (∀ q : Query, (∀ r ∈ q.references, r ≠ .global → r ∈ known) →
      ∃ reply, (q.ask.run t.renew).1 = .ok reply ∧ q.ask.run t.traced = (.ok reply, t.traced)) ∧
    (∀ (r : Reference) (e : Fault), (r.resolve.run t.renew).1 = .error e → t.remembered r = none) ∧
    (∀ (q : Query) (r : Reference) (kind : Kind) (name : String) (record : kind.Record),
      (r.resolve.run t.renew).1 = .error (.notFound kind name) →
      (∀ r' ∈ q.references, r' ≠ r → ∀ p ∈ r'.parts, ∀ id, t.remembered p = some id →
        (p.resolve.run ({ client := t.client.insert kind record } : Session Store)).1 = .ok id) →
      (q.ask.run { t with client := t.client.insert kind record }).1 =
        (q.ask.run ({ client := t.client.insert kind record } : Session Store)).1) := by
  obtain ⟨-, hsound, -, hknown⟩ := h.invariant
  have hrenew := hsound.renew
  have hc := hsound.directory.clusterScripts
  have hp := hsound.directory.projectScripts
  have hsame : ∀ q : Query, (q.ask.run t).1 = (q.ask.run t.renew).1 := fun q =>
    reply_congr t t.renew hc hp hc hp fun r _ => hsound.idOf_eq hrenew r
  have hresolve : ∀ r : Reference, (r.resolve.run t.renew).1 = t.idOf r := fun r => by
    obtain ⟨u, hu, -⟩ := resumes_resolve (t := t.renew) hc hp r
    rw [hu, hsound.idOf_eq hrenew]
  refine ⟨hsame, fun q hq => ?_, fun r e he => ?_, fun q r kind name record hr hstands => ?_⟩
  · have hall : ∀ r ∈ q.references, (t.remembered r).isSome := fun r hr => by
      by_cases hglobal : r = .global
      · rw [hglobal]
        rfl
      · exact hknown r (hq r hr hglobal)
    obtain ⟨ids, hids⟩ := exists_ids hall
    have htraced : t.traced.remembered = t.remembered := by
      funext r
      cases r <;> rfl
    have hrun := resolveAll_of_remembered hids
    have hrun' := resolveAll_of_remembered (t := t.traced) (htraced ▸ hids)
    refine ⟨q.reply ids, ?_, ?_⟩
    · rw [← hsame, Query.run_ask, hrun]
      rfl
    · rw [Query.run_ask, hrun']
      rfl
  · rw [hresolve] at he
    cases hm : t.remembered r with
    | none => rfl
    | some id => cases he.symm.trans (idOf_of_remembered hm)
  · rw [hresolve] at hr
    have hclusters : (t.client.insert kind record).Unscripted .cluster := fun id => hc id
    have hprojects : (t.client.insert kind record).Unscripted .project := fun id => hp id
    refine reply_congr { t with client := t.client.insert kind record } { client := t.client.insert kind record }
      hclusters hprojects hclusters hprojects fun r' hr' => ?_
    refine idOf_of_stands fun p hmem id hid => ?_
    by_cases he : r' = r
    · subst he
      exact stands_of_missing hsound record hr hmem hid
    · obtain ⟨u, hu, -⟩ := resumes_resolve (t := { client := t.client.insert kind record }) hclusters hprojects p
      rw [← hstands r' hr' he p hmem id hid, hu]

/-- A store of one cluster. -/
def lone : Store := Store.ofRecords [⟨"c-1", "a"⟩] []

/-- Answers for that cluster, and for one that is missing. -/
def twoAnswers : Query := .answers (Dict.ofList [("a:k", "1"), ("c-9:k", "2")])

/-- The session after the answers were asked for in vain. -/
def askedOnce : Session Store := (twoAnswers.ask.run ({ client := lone } : Session Store)).2

theorem transparent_lone :
    (∃ reply, ((Query.cluster "a").ask.run askedOnce.renew).1 = .ok reply ∧
      (Query.cluster "a").ask.run askedOnce.traced = (.ok reply, askedOnce.traced)) ∧
    askedOnce.remembered (.cluster "c-9") = none ∧
    (twoAnswers.ask.run { askedOnce with client := askedOnce.client.insert .cluster ⟨"c-9", "b"⟩ }).1 =
      (twoAnswers.ask.run ({ client := askedOnce.client.insert .cluster ⟨"c-9", "b"⟩ } : Session Store)).1 := by
  have hfresh : Course lone [] { client := lone } :=
    .fresh (Store.unscripted_ofRecords _) (Store.unscripted_ofRecords _)
  have hmissing : ((Reference.cluster "c-9").resolve.run askedOnce.renew).1 = .error (.notFound .cluster "c-9") := by
    cbv
  have hsettled : twoAnswers.settled lone = [.cluster "a"] := by cbv
  have hreferences : twoAnswers.references = [.cluster "a", .cluster "c-9"] := by cbv
  have hremembered : askedOnce.remembered (.cluster "a") = some "c-1" := by cbv
  obtain ⟨-, hknown, hforgets, hcomes⟩ := transparent (.asked twoAnswers hfresh)
  refine ⟨hknown (.cluster "a") fun r hr _ => ?_, hforgets _ _ hmissing,
    hcomes twoAnswers (.cluster "c-9") .cluster "c-9" ⟨"c-9", "b"⟩ hmissing fun r hr hne p hp id hid => ?_⟩
  · rw [hsettled]
    exact hr
  · rw [hreferences, List.mem_cons, List.mem_singleton] at hr
    obtain rfl : r = .cluster "a" := hr.resolve_right hne
    obtain rfl : p = .cluster "a" := List.mem_singleton.1 hp
    obtain rfl : "c-1" = id := Option.some.inj (hremembered.symm.trans hid)
    cbv

/-- What was remembered stays as it was: the missing cluster has come with the name of the other one, which a
new session finds ambiguous. -/
theorem answers_remember :
    twoAnswers.ask.run ({ client := lone } : Session Store) = (.error (.notFound .cluster "c-9"), askedOnce) ∧
    (twoAnswers.ask.run { askedOnce with client := askedOnce.client.insert .cluster ⟨"c-9", "a"⟩ }).1 =
      .ok [{ clusterId := "c-1", values := Dict.ofList [("k", "1")] },
        { clusterId := "c-9", values := Dict.ofList [("k", "2")] }] ∧
    (twoAnswers.ask.run ({ client := askedOnce.client.insert .cluster ⟨"c-9", "a"⟩ } : Session Store)).1 =
      .error (.ambiguous .cluster "a" ["c-1", "c-9"]) := by
  refine ⟨Prod.ext (by cbv) rfl, by cbv, by cbv⟩

end Course

end MultiCluster
