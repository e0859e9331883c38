/-
What a computation does to its state whatever comes of it. `x.Keeps view R` says that every run of `x`
leaves a state whose view stands in the relation `R` to the view before; for a preorder it is enough
to know it of the parts (`Keeps.bind`). Of a computation that may do more once it succeeds, it is said
of the runs that fail (`KeepsFailing`).
-/
import MultiCluster.Attempt
import Mathlib.Order.Defs.Unbundled
namespace MultiCluster.Attempt

variable {ε δ σ τ ρ α β : Type} {view : σ → ρ} {R : ρ → ρ → Prop}

def Keeps (view : σ → ρ) (R : ρ → ρ → Prop) (x : Attempt ε σ α) : Prop := ∀ s, R (view s) (view (x.run s).2)

namespace Keeps

theorem of_run {x : Attempt ε σ α} (h : x.Keeps view R) {s t : σ} {r : Except ε α} (hr : x.run s = (r, t)) :
    R (view s) (view t) := by
  have := h s
  rwa [hr] at this

/-- Whatever does not touch the state. -/
theorem of_run_eq [Std.Refl R] {x : Attempt ε σ α} (h : ∀ s, (x.run s).2 = s) : x.Keeps view R := fun s => by
  rw [h]
  exact Std.Refl.refl _

protected theorem pure [Std.Refl R] (a : α) : (pure a : Attempt ε σ α).Keeps view R := of_run_eq fun _ => rfl

theorem fail [Std.Refl R] (e : ε) : (Attempt.fail e : Attempt ε σ α).Keeps view R := of_run_eq fun _ => rfl

protected theorem bind [IsTrans ρ R] {x : Attempt ε σ α} {f : α → Attempt ε σ β} (hx : x.Keeps view R)
    (hf : ∀ a, (f a).Keeps view R) : (x >>= f).Keeps view R := by
  intro s
  have h := hx s
  rw [run_bind]
  rcases hr : x.run s with ⟨_ | a, t⟩ <;> rw [hr] at h
  · exact h
  · exact IsTrans.trans _ _ _ h (hf a t)

theorem mapError {x : Attempt ε σ α} (hx : x.Keeps view R) (f : ε → δ) : (x.mapError f).Keeps view R := fun s => by
  rw [run_mapError]
  exact hx s

theorem mono {ρ' : Type} {view' : σ → ρ'} {R' : ρ' → ρ' → Prop} {x : Attempt ε σ α} (hx : x.Keeps view R)
    (h : ∀ s t, R (view s) (view t) → R' (view' s) (view' t)) : x.Keeps view' R' := fun s => h _ _ (hx s)

/-- Work on a part of the state, where the view is one of that part. -/
theorem within {x : Attempt ε σ α} (hx : x.Keeps view R) {part : τ → σ} {put : σ → τ → τ}
    (h : ∀ s t, part (put s t) = s) : (x.within part put).Keeps (view ∘ part) R := fun t => by
  rw [run_within]
  simpa [h] using hx (part t)

end Keeps

/-- Steps whose results are known, as long as the state has the property `Q`, come to a result that is known. -/
theorem run_bind_of_known {Q : σ → Prop} {x : Attempt ε σ α} {f : α → Attempt ε σ β} {r : Except ε α}
    {g : α → Except ε β} {s : σ} (hx : ∃ t, x.run s = (r, t) ∧ Q t)
    (hf : ∀ a t, Q t → ∃ u, (f a).run t = (g a, u) ∧ Q u) :
    ∃ u, (x >>= f).run s = (r >>= g, u) ∧ Q u := by
  obtain ⟨t, ht, hq⟩ := hx
  rcases r with e | a
  · exact ⟨t, run_bind_error ht, hq⟩
  · obtain ⟨u, hu, hq'⟩ := hf a t hq
    exact ⟨u, (run_bind_ok ht).trans hu, hq'⟩

/-- Every run of `x` that fails leaves a state whose view stands in the relation `R` to the view
before. -/
def KeepsFailing (view : σ → ρ) (R : ρ → ρ → Prop) (x : Attempt ε σ α) : Prop :=
  ∀ s e t, x.run s = (.error e, t) → R (view s) (view t)

/-- What is kept up to the last step is kept if that step fails and keeps it. -/
theorem KeepsFailing.bind [IsTrans ρ R] {x : Attempt ε σ α} {f : α → Attempt ε σ β} (hx : x.Keeps view R)
    (hf : ∀ a, (f a).KeepsFailing view R) : (x >>= f).KeepsFailing view R := by
  intro s e t h
  rw [run_bind] at h
  rcases hr : x.run s with ⟨e' | a, s'⟩ <;> rw [hr] at h
  · cases h
    exact hx.of_run hr
  · exact IsTrans.trans _ _ _ (hx.of_run hr) (hf a s' e t h)

/-- What cannot fail. -/
theorem KeepsFailing.of_ok {x : Attempt ε σ α} (h : ∀ s, ∃ a, (x.run s).1 = .ok a) : x.KeepsFailing view R := by
  intro s e t hrun
  obtain ⟨a, ha⟩ := h s
  rw [hrun] at ha
  cases ha

/-- What is kept if the first part fails is kept if the whole does, where the rest cannot fail. -/
theorem KeepsFailing.before {x : Attempt ε σ α} {f : α → Attempt ε σ β} (hx : x.KeepsFailing view R)
    (hf : ∀ a s, ∃ b, ((f a).run s).1 = .ok b) : (x >>= f).KeepsFailing view R := by
  intro s e t h
  rw [run_bind] at h
  rcases hr : x.run s with ⟨e' | a, s'⟩ <;> rw [hr] at h
  · cases h
    exact hx s e t hr
  · obtain ⟨b, hb⟩ := hf a s'
    have he : ((f a).run s').1 = .error e := congrArg Prod.fst h
    rw [he] at hb
    cases hb

end MultiCluster.Attempt
