/-
Reading through a session. Listings and lookups are work on its client alone (`lookup_eq_onClient`).
Resolving a reference, a scope or a flat map of answers asks the client and remembers what it gave, so it
leaves of the client what the calls that read leave (`readsKeep`).
-/
import MultiCluster.Answers.Scoped
import MultiCluster.Proofs.Client.Reading
namespace MultiCluster

/-! ## Work on the client of a session -/

namespace Session

variable {σ : Type} {α β : Type}

theorem run_onClient (x : Attempt Fault σ α) (t : Session σ) :
    (onClient x).run t = ((x.run t.client).1, { t with client := (x.run t.client).2 }) := rfl

/-- What such work gave, the client gave. -/
theorem run_onClient_eq_ok {x : Attempt Fault σ α} {t t' : Session σ} {a : α} (h : (onClient x).run t = (.ok a, t')) :
    x.run t.client = (.ok a, t'.client) ∧ t' = { t with client := t'.client } := by
  rw [run_onClient] at h
  rcases hx : x.run t.client with ⟨r, s⟩
  rw [hx] at h
  cases h
  exact ⟨rfl, rfl⟩

theorem onClient_bind (x : Attempt Fault σ α) (f : α → Attempt Fault σ β) :
    onClient (x >>= f) = onClient x >>= fun a => onClient (f a) := by
  funext t
  show (onClient (x >>= f)).run t = (onClient x >>= fun a => onClient (f a)).run t
  rw [run_onClient, Attempt.run_bind, Attempt.run_bind, run_onClient]
  rcases x.run t.client with ⟨_ | a, s⟩ <;> rfl

theorem onClient_mapError (x : Attempt Fault σ α) (f : Fault → Fault) :
    onClient (x.mapError f) = (onClient x).mapError f := by
  funext t
  show (onClient (x.mapError f)).run t = ((onClient x).mapError f).run t
  rw [run_onClient, Attempt.run_mapError, Attempt.run_mapError, run_onClient]

variable [Client σ]

theorem drain_eq_onClient (kind : Kind) (page : Page kind.Record) :
    (Client.drain kind page : Attempt Fault (Session σ) _) = onClient (Client.drain kind page) := by
  funext t
  refine Client.drain_induction (motive := fun page t => Client.drain kind page t =
    ((Client.drain kind page t.client).1, { t with client := (Client.drain kind page t.client).2 })) ?last ?more page t
  case last =>
    intro page t hp
    rw [Client.drain_last hp, Client.drain_last hp]
  case more =>
    intro page t hp ih
    have ha : Client.answer (.next kind page) t = ((Client.answer (.next kind page) t.client).1,
      { t with client := (Client.answer (.next kind page) t.client).2 }) := rfl
    rcases hx : Client.answer (.next kind page) t.client with ⟨e | p, s⟩ <;> rw [hx] at ha
    · rw [Client.drain_next_error hp ha, Client.drain_next_error hp hx]
    · cases p with
      | none => rw [Client.drain_next_none hp ha, Client.drain_next_none hp hx]
      | some p =>
        rw [Client.drain_next_some hp ha, Client.drain_next_some hp hx, ih p _ ha]

theorem listAll_eq_onClient (kind : Kind) (filters : Dict String) :
    (Client.listAll kind filters : Attempt Fault (Session σ) _) = onClient (Client.listAll kind filters) :=
  calc (Client.list kind filters >>= fun page => (Client.drain kind page : Attempt Fault (Session σ) _))
      = onClient (Client.list kind filters) >>= fun page => onClient (Client.drain kind page) :=
        congrArg (Client.list kind filters >>= ·) (funext fun page => drain_eq_onClient kind page)
    _ = onClient (Client.listAll kind filters) := (onClient_bind _ _).symm

theorem lookup_eq_onClient (kind : Kind) (reference : String) (filters : Dict String) :
    (Client.lookup kind reference filters : Attempt Fault (Session σ) _) =
      onClient (Client.lookup kind reference filters) := by
  unfold Client.lookup
  split
  · rfl
  · rw [onClient_bind, listAll_eq_onClient]
    congr 1
    funext rs
    match rs with
    | [] => exact (onClient_mapError (Client.byId kind reference) _).symm
    | [r] => rfl
    | _ :: _ :: _ => rfl

end Session

/-! ## What reading keeps -/

variable {σ ρ : Type} [Client σ] {view : σ → ρ} {R : ρ → ρ → Prop}

namespace Session

/-- A session asks its client, whose state is all the view looks at. -/
theorem readsKeep (h : Client.ReadsKeep view R) : Client.ReadsKeep (σ := Session σ) (view ∘ Session.client) R :=
  fun c hc => (h c hc).within fun _ _ => rfl

section Keeps

variable (h : Client.ReadsKeep view R) [IsPreorder ρ R]

omit [Client σ] in
/-- Remembering is no work on the client. -/
theorem keeps_modify {f : Session σ → Session σ} (hf : ∀ t, (f t).client = t.client) :
    (Attempt.modify f : Attempt Fault (Session σ) Unit).Keeps (view ∘ Session.client) R := fun t => by
  rw [Attempt.run_modify, Function.comp, Function.comp, hf]
  exact Std.Refl.refl _

include h

theorem keeps_resolveCluster (reference : String) :
    (resolveCluster reference : Attempt Fault (Session σ) _).Keeps (view ∘ Session.client) R := by
  refine .bind (.of_run_eq fun _ => rfl) fun t => ?_
  split
  · exact .pure _
  · refine ((readsKeep h).lookup .cluster reference ∅).bind fun c => ?_
    refine .bind (keeps_modify fun _ => rfl) fun _ => ?_
    exact .pure _

theorem keeps_findProject (scope clusterId : String) :
    (findProject scope clusterId : Attempt Fault (Session σ) _).Keeps (view ∘ Session.client) R := by
  unfold findProject
  split
  · exact (readsKeep h).lookup .project scope ∅
  · exact (readsKeep h).lookup .project _ _

theorem keeps_resolveProject (scope : String) :
    (resolveProject scope : Attempt Fault (Session σ) _).Keeps (view ∘ Session.client) R := by
  refine .bind (.of_run_eq fun _ => rfl) fun t => ?_
  split
  · exact .pure _
  · refine (keeps_resolveCluster h _).bind fun clusterId => ?_
    refine (keeps_findProject h scope clusterId).bind fun p => ?_
    refine .bind (keeps_modify fun _ => rfl) fun _ => ?_
    exact .pure _

theorem keeps_resolveTargets (specifiers : List String) :
    (resolveTargets specifiers : Attempt Fault (Session σ) _).Keeps (view ∘ Session.client) R := by
  induction specifiers with
  | nil => exact .pure _
  | cons specifier rest ih => exact (keeps_resolveProject h specifier).bind fun _ => ih.bind fun _ => .pure _

end Keeps

end Session

namespace FlatAnswers

variable (h : Client.ReadsKeep view R) [IsPreorder ρ R]
include h

theorem keeps_resolveScope (k : ScopedKey) :
    (resolveScope k : Attempt Fault (Session σ) _).Keeps (view ∘ Session.client) R := by
  cases k with
  | global key => exact .pure ""
  | cluster c key => exact Session.keeps_resolveCluster h c
  | project c p key => exact Session.keeps_resolveProject h (joinScope c p)

theorem keeps_fill (l : List (String × String)) (b : Buckets) :
    (fill l b : Attempt Fault (Session σ) _).Keeps (view ∘ Session.client) R := by
  induction l generalizing b with
  | nil => exact .pure b
  | cons e r ih => exact (keeps_resolveScope h (ScopedKey.parse e.1)).bind fun id => ih _

theorem keeps_toAnswers (flat : FlatAnswers) :
    (flat.toAnswers : Attempt Fault (Session σ) _).Keeps (view ∘ Session.client) R :=
  (keeps_fill h flat.toList ∅).bind fun _ => .pure _

end FlatAnswers

end MultiCluster
