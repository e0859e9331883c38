/-
Attempts: computations on a state that end in a value or an error and leave a state either way, so
that what was done before a failure stays done.
-/
namespace MultiCluster

def Attempt (ε σ α : Type) : Type := σ → Except ε α × σ

namespace Attempt

variable {ε δ σ τ α β γ : Type}

def run (x : Attempt ε σ α) (s : σ) : Except ε α × σ := x s

protected def pure (a : α) : Attempt ε σ α := fun s => (.ok a, s)

protected def bind (x : Attempt ε σ α) (f : α → Attempt ε σ β) : Attempt ε σ β := fun s =>
  match x s with
  | (.ok a, s') => f a s'
  | (.error e, s') => (.error e, s')

instance : Monad (Attempt ε σ) where
  pure := Attempt.pure
  bind := Attempt.bind

def fail (e : ε) : Attempt ε σ α := fun s => (.error e, s)

def get : Attempt ε σ σ := fun s => (.ok s, s)

def modify (f : σ → σ) : Attempt ε σ Unit := fun s => (.ok (), f s)

def ofExcept (x : Except ε α) : Attempt ε σ α := fun s => (x, s)

/-- Renames the errors. -/
def mapError (f : ε → δ) (x : Attempt ε σ α) : Attempt δ σ α := fun s =>
  match x s with
  | (.ok a, s') => (.ok a, s')
  | (.error e, s') => (.error (f e), s')

/-- Runs on a part of the state. -/
def within (get : τ → σ) (set : σ → τ → τ) (x : Attempt ε σ α) : Attempt ε τ α := fun t =>
  match x (get t) with
  | (r, s') => (r, set s' t)

@[simp] theorem run_pure (a : α) (s : σ) : (pure a : Attempt ε σ α).run s = (.ok a, s) := rfl

@[simp] theorem run_fail (e : ε) (s : σ) : (fail e : Attempt ε σ α).run s = (.error e, s) := rfl

@[simp] theorem run_get (s : σ) : (get : Attempt ε σ σ).run s = (.ok s, s) := rfl

@[simp] theorem run_modify (f : σ → σ) (s : σ) : (modify f : Attempt ε σ Unit).run s = (.ok (), f s) := rfl

@[simp] theorem run_ofExcept (x : Except ε α) (s : σ) : (ofExcept x : Attempt ε σ α).run s = (x, s) := rfl

theorem run_mapError (f : ε → δ) (x : Attempt ε σ α) (s : σ) :
    (x.mapError f).run s = ((x.run s).1.mapError f, (x.run s).2) := by
  unfold run mapError
  cases x s with
  | mk r s' => cases r <;> rfl

theorem run_within (get : τ → σ) (set : σ → τ → τ) (x : Attempt ε σ α) (t : τ) :
    (x.within get set).run t = ((x.run (get t)).1, set (x.run (get t)).2 t) := rfl

theorem run_bind (x : Attempt ε σ α) (f : α → Attempt ε σ β) (s : σ) :
    (x >>= f).run s = match x.run s with
      | (.ok a, s') => (f a).run s'
      | (.error e, s') => (.error e, s') := rfl

theorem run_bind_ok {x : Attempt ε σ α} {f : α → Attempt ε σ β} {s s' : σ} {a : α}
    (h : x.run s = (.ok a, s')) : (x >>= f).run s = (f a).run s' := by rw [run_bind, h]

theorem run_bind_error {x : Attempt ε σ α} {f : α → Attempt ε σ β} {s s' : σ} {e : ε}
    (h : x.run s = (.error e, s')) : (x >>= f).run s = (.error e, s') := by rw [run_bind, h]

theorem run_bind_congr {x y : Attempt ε σ α} {s t : σ} (h : x.run s = y.run t) (f : α → Attempt ε σ β) :
    (x >>= f).run s = (y >>= f).run t := by rw [run_bind, run_bind, h]

/-- A last step that leaves the state alone only changes the result. -/
theorem run_bind_ofExcept (x : Attempt ε σ α) (f : α → Except ε β) (s : σ) :
    (x >>= fun a => ofExcept (f a)).run s = ((x.run s).1 >>= f, (x.run s).2) := by
  rw [run_bind]
  rcases x.run s with ⟨_ | _, _⟩ <;> rfl

/-- A sequence succeeds when both parts do. -/
theorem run_bind_eq_ok_iff {x : Attempt ε σ α} {f : α → Attempt ε σ β} {s t : σ} {b : β} :
    (x >>= f).run s = (.ok b, t) ↔ ∃ a s', x.run s = (.ok a, s') ∧ (f a).run s' = (.ok b, t) := by
  rw [run_bind]
  cases hx : x.run s with
  | mk r s' =>
    cases r with
    | ok a =>
      constructor
      · exact fun h => ⟨a, s', rfl, h⟩
      · rintro ⟨a', s'', h, hf⟩
        cases h
        exact hf
    | error e =>
      constructor
      · intro h; cases h
      · rintro ⟨a', s'', h, -⟩
        cases h

protected theorem id_map (x : Attempt ε σ α) : id <$> x = x := by
  funext s
  show (match x s with | (.ok a, s') => (.ok a, s') | (.error e, s') => (.error e, s')) = x s
  split <;> simp_all

protected theorem bind_assoc (x : Attempt ε σ α) (f : α → Attempt ε σ β) (g : β → Attempt ε σ γ) :
    x >>= f >>= g = x >>= fun a => f a >>= g := by
  funext s
  show Attempt.bind (Attempt.bind x f) g s = Attempt.bind x (fun a => Attempt.bind (f a) g) s
  unfold Attempt.bind
  cases x s with
  | mk r s' => cases r <;> rfl

instance : LawfulMonad (Attempt ε σ) :=
  LawfulMonad.mk' _ Attempt.id_map (fun _ _ => rfl) Attempt.bind_assoc

end Attempt

end MultiCluster
