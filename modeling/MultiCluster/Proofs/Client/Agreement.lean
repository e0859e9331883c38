/-
Two runs side by side. From related states two computations agree when they give the same and end in
related states (`Agree`). Agreement goes over from the parts of a computation to the whole
(`Agree.bind`), and clients that agree on whole listings and on all calls but those for single pages
agree on lookups (`Agrees.lookup`).
-/
import MultiCluster.Proofs.Client.Reading
namespace MultiCluster

namespace Attempt

variable {ε δ σ τ υ ω α β : Type} {R : σ → τ → Prop}

/-- The two give the same from states in the relation `R`, and leave such states. -/
def Agree (R : σ → τ → Prop) (x : Attempt ε σ α) (y : Attempt ε τ α) : Prop :=
  ∀ s t, R s t → (x.run s).1 = (y.run t).1 ∧ R (x.run s).2 (y.run t).2

namespace Agree

theorem ofExcept (x : Except ε α) : Agree R (Attempt.ofExcept x) (Attempt.ofExcept x) := fun _ _ h => ⟨rfl, h⟩

protected theorem pure (a : α) : Agree R (pure a : Attempt ε σ α) (pure a) := fun _ _ h => ⟨rfl, h⟩

theorem fail (e : ε) : Agree R (Attempt.fail e : Attempt ε σ α) (Attempt.fail e) := fun _ _ h => ⟨rfl, h⟩

theorem modify {f : σ → σ} {g : τ → τ} (h : ∀ s t, R s t → R (f s) (g t)) :
    Agree R (Attempt.modify f : Attempt ε σ Unit) (Attempt.modify g) := fun s t hst => ⟨rfl, h s t hst⟩

variable {x : Attempt ε σ α} {y : Attempt ε τ α}

protected theorem bind {f : α → Attempt ε σ β} {g : α → Attempt ε τ β} (hx : Agree R x y)
    (hf : ∀ a, Agree R (f a) (g a)) : Agree R (x >>= f) (y >>= g) := by
  intro s t hst
  obtain ⟨hresult, hstate⟩ := hx s t hst
  rw [run_bind, run_bind]
  rcases hs : x.run s with ⟨e | a, s'⟩ <;> rcases ht : y.run t with ⟨e' | b, t'⟩
  all_goals rw [hs, ht] at hresult hstate; cases hresult
  · exact ⟨rfl, hstate⟩
  · exact hf a s' t' hstate

/-- What is done with the states themselves has to agree for related ones. -/
theorem get_bind {f : σ → Attempt ε σ β} {g : τ → Attempt ε τ β} (h : ∀ s t, R s t → Agree R (f s) (g t)) :
    Agree R (Attempt.get >>= f) (Attempt.get >>= g) := fun s t hst => h s t hst s t hst

theorem mapError (h : Agree R x y) (f : ε → δ) : Agree R (x.mapError f) (y.mapError f) := by
  intro s t hst
  obtain ⟨hresult, hstate⟩ := h s t hst
  rw [run_mapError, run_mapError, hresult]
  exact ⟨rfl, hstate⟩

/-- Work on a part of the states, where the relation is that of the parts and of what is beside them. -/
theorem within (h : Agree R x y) {part : υ → σ} {put : σ → υ → υ} {part' : ω → τ} {put' : τ → ω → ω} {Q : υ → ω → Prop}
    (hpart : ∀ u w, Q u w → R (part u) (part' w)) (hput : ∀ u w s t, Q u w → R s t → Q (put s u) (put' t w)) :
    Agree Q (x.within part put) (y.within part' put') := by
  intro u w huw
  obtain ⟨hresult, hstate⟩ := h _ _ (hpart u w huw)
  rw [run_within, run_within]
  exact ⟨hresult, hput u w _ _ huw hstate⟩

end Agree

end Attempt

namespace Client

variable {σ τ : Type} [Client σ] [Client τ] {R : σ → τ → Prop}

/-- Two clients in the relation `R` answer alike whatever does not depend on how a listing is cut into
pages. -/
structure Agrees (R : σ → τ → Prop) : Prop where
  listAll : ∀ kind filters, Attempt.Agree R (Client.listAll kind filters) (Client.listAll kind filters)
  drain : ∀ kind (page : Page kind.Record), Attempt.Agree R (Client.drain kind page) (Client.drain kind page)
  answer : ∀ c : Call, ¬ c.IsPaging → Attempt.Agree R (Client.answer c) (Client.answer c)

/-- Clients that hand out single pages alike hand out listings alike. -/
theorem agree_drain {kind : Kind}
    (h : ∀ page : Page kind.Record, Attempt.Agree R (answer (.next kind page)) (answer (.next kind page)))
    (page : Page kind.Record) : Attempt.Agree R (drain kind page) (drain kind page) := by
  intro s
  refine drain_induction (motive := fun page s => ∀ t, R s t →
    (drain kind page s).1 = (drain kind page t).1 ∧ R (drain kind page s).2 (drain kind page t).2) ?last ?more page s
  case last =>
    intro page s hp t hst
    rw [drain_last hp, drain_last hp]
    exact ⟨rfl, hst⟩
  case more =>
    intro page s hp ih t hst
    obtain ⟨hresult, hstate⟩ := h page s t hst
    rcases hs : answer (.next kind page) s with ⟨e | p, s'⟩ <;>
      rcases ht : answer (.next kind page) t with ⟨e' | p', t'⟩
    all_goals rw [Attempt.run, Attempt.run, hs, ht] at hresult hstate; cases hresult
    · rw [drain_next_error hp hs, drain_next_error hp ht]
      exact ⟨rfl, hstate⟩
    · cases p with
      | none =>
        rw [drain_next_none hp hs, drain_next_none hp ht]
        exact ⟨rfl, hstate⟩
      | some p =>
        rw [drain_next_some hp hs, drain_next_some hp ht]
        obtain ⟨hrest, hend⟩ := ih p s' hs t' hstate
        exact ⟨congrArg (Except.map (page.records ++ ·)) hrest, hend⟩

namespace Agrees

/-- Clients that answer every call alike. -/
theorem of_answer (h : ∀ c : Call, Attempt.Agree R (Client.answer c) (Client.answer c)) : Agrees R where
  listAll kind filters := (h (.list kind filters)).bind fun page => agree_drain (fun page => h (.next kind page)) page
  drain kind page := agree_drain (fun page => h (.next kind page)) page
  answer c _ := h c

variable (h : Agrees R)
include h

theorem lookup (kind : Kind) (reference : String) (filters : Dict String) :
    Attempt.Agree R (Client.lookup kind reference filters) (Client.lookup kind reference filters) := by
  unfold Client.lookup
  split
  · exact .fail _
  · refine (h.listAll kind _).bind fun rs => ?_
    match rs with
    | [] => exact (h.answer (.byId kind reference) not_false).mapError _
    | [r] => exact .pure r
    | _ :: _ :: _ => exact .fail _

theorem follow {α : Type} (read : Json.Tree → Option α) (url : String) :
    Attempt.Agree R (Client.follow read url) (Client.follow read url) := by
  refine .bind (h.answer (.link url) not_false) fun body => ?_
  split
  · exact .pure _
  · exact .fail _

end Agrees

end Client

end MultiCluster
