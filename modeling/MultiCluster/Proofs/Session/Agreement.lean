/-
Sessions side by side. Two sessions that remember the same, on clients that agree, agree on all that is
resolved, asked and changed through them, up to the changes of an app's life.
-/
import MultiCluster.Lifecycle.Change
import MultiCluster.Proofs.Client.Agreement
import MultiCluster.Proofs.Session.Reading
namespace MultiCluster

variable {σ τ : Type} {R : σ → τ → Prop}

namespace Session

/-- Sessions with the same memory, on clients in the relation `R`. -/
structure Alike (R : σ → τ → Prop) (t : Session σ) (u : Session τ) : Prop where
  client : R t.client u.client
  clusterIds : t.clusterIds = u.clusterIds
  projectIds : t.projectIds = u.projectIds
  versions : t.versions = u.versions

theorem agree_onClient {α : Type} {x : Attempt Fault σ α} {y : Attempt Fault τ α} (h : Attempt.Agree R x y) :
    Attempt.Agree (Alike R) (onClient x) (onClient y) :=
  h.within (fun _ _ => Alike.client) fun _ _ _ _ htu hst => ⟨hst, htu.clusterIds, htu.projectIds, htu.versions⟩

variable [Client σ] [Client τ]

/-- Sessions on clients that agree are clients that agree. -/
theorem agrees (h : Client.Agrees R) : Client.Agrees (Alike R) where
  listAll kind filters := by
    rw [listAll_eq_onClient, listAll_eq_onClient]
    exact agree_onClient (h.listAll kind filters)
  drain kind page := by
    rw [drain_eq_onClient, drain_eq_onClient]
    exact agree_onClient (h.drain kind page)
  answer c hc := agree_onClient (h.answer c hc)

variable (h : Client.Agrees R)
include h

theorem agree_resolveCluster (reference : String) :
    Attempt.Agree (Alike R) (resolveCluster reference) (resolveCluster reference) := by
  refine .get_bind fun t u htu => ?_
  rw [htu.clusterIds]
  split
  · exact .pure _
  · refine ((agrees h).lookup .cluster reference ∅).bind fun c => ?_
    refine .bind (.modify fun t u htu => ?_) fun _ => .pure _
    exact ⟨htu.client, by rw [htu.clusterIds], htu.projectIds, htu.versions⟩

theorem agree_findProject (scope clusterId : String) :
    Attempt.Agree (Alike R) (findProject scope clusterId) (findProject scope clusterId) := by
  unfold findProject
  split
  · exact (agrees h).lookup .project scope ∅
  · exact (agrees h).lookup .project _ _

theorem agree_resolveProject (scope : String) :
    Attempt.Agree (Alike R) (resolveProject scope) (resolveProject scope) := by
  refine .get_bind fun t u htu => ?_
  rw [htu.projectIds]
  split
  · exact .pure _
  · refine (agree_resolveCluster h _).bind fun clusterId => ?_
    refine (agree_findProject h scope clusterId).bind fun p => ?_
    refine .bind (.modify fun t u htu => ?_) fun _ => .pure _
    exact ⟨htu.client, htu.clusterIds, by rw [htu.projectIds], htu.versions⟩

theorem agree_resolveTargets (specifiers : List String) :
    Attempt.Agree (Alike R) (resolveTargets specifiers) (resolveTargets specifiers) := by
  induction specifiers with
  | nil => exact .pure _
  | cons specifier rest ih => exact (agree_resolveProject h specifier).bind fun _ => ih.bind fun _ => .pure _

theorem agree_versionOf (id : String) : Attempt.Agree (Alike R) (versionOf id) (versionOf id) := by
  refine .get_bind fun t u htu => ?_
  rw [htu.versions]
  split
  · exact .pure _
  · refine .bind ((agrees h).answer (.byId .templateVersion id) not_false) fun found => ?_
    refine .bind (.modify fun t u htu => ?_) fun _ => .pure _
    exact ⟨htu.client, htu.clusterIds, htu.projectIds, by rw [htu.versions]⟩

end Session

/-! ## Answers and directories -/

variable [Client σ] [Client τ] (h : Client.Agrees R)
include h

namespace FlatAnswers

theorem agree_resolveScope (k : ScopedKey) : Attempt.Agree (Session.Alike R) (resolveScope k) (resolveScope k) := by
  cases k with
  | global key => exact .pure ""
  | cluster c key => exact Session.agree_resolveCluster h c
  | project c p key => exact Session.agree_resolveProject h (joinScope c p)

theorem agree_fill (l : List (String × String)) (b : Buckets) :
    Attempt.Agree (Session.Alike R) (fill l b) (fill l b) := by
  induction l generalizing b with
  | nil => exact .pure b
  | cons e r ih => exact (agree_resolveScope h (ScopedKey.parse e.1)).bind fun id => ih _

theorem agree_toAnswers (flat : FlatAnswers) : Attempt.Agree (Session.Alike R) flat.toAnswers flat.toAnswers :=
  (agree_fill h flat.toList ∅).bind fun _ => .pure _

end FlatAnswers

/-! ## The changes of an app's life -/

namespace App

theorem agree_waitAtMost (id : String) (interval : Duration) (polls : Nat) :
    Attempt.Agree R (waitAtMost id interval polls) (waitAtMost id interval polls) := by
  induction polls with
  | zero => exact .fail _
  | succ polls ih =>
    refine .bind (h.answer (.sleep interval) not_false) fun _ => ?_
    refine .bind (h.answer (.byId .app id) not_false) fun a => ?_
    split
    · exact .pure _
    · exact .fail _
    · exact .fail _
    · exact ih

theorem agree_install (app : App) (policy : PollPolicy) :
    Attempt.Agree R (install app policy) (install app policy) :=
  .bind (h.answer (.create .app app) not_false) fun _ => agree_waitAtMost h _ _ _

theorem agree_checkVersion (current : TemplateVersion) (version : String) :
    Attempt.Agree (Session.Alike R) (checkVersion current version) (checkVersion current version) := by
  unfold checkVersion
  split
  · exact .pure ()
  · refine .bind ((Session.agrees h).follow _ _) fun template => ?_
    dsimp only
    split
    · exact .pure ()
    · exact .fail _

theorem agree_upgrade (app : App) (flat : FlatAnswers) (version : String) (specifiers : List String) :
    Attempt.Agree (Session.Alike R) (app.upgrade flat version specifiers) (app.upgrade flat version specifiers) := by
  have hs := Session.agrees h
  refine .bind (FlatAnswers.agree_toAnswers h flat) fun answers => ?_
  refine .bind (hs.answer (.byId .templateVersion app.templateVersionId) not_false) fun current => ?_
  refine .bind (agree_checkVersion h current version) fun _ => ?_
  refine .bind (Session.agree_resolveTargets h specifiers) fun projectIds => ?_
  exact hs.answer (.update .app _) not_false

end App

end MultiCluster
