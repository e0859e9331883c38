/-
Results taken apart: what it says of the steps of a chain, or of a list of steps, that the whole of it
succeeds.
-/
namespace MultiCluster

variable {ε α β : Type}

instance decidableEqExcept [DecidableEq ε] [DecidableEq α] : DecidableEq (Except ε α)
  | .ok a, .ok b => decidable_of_iff (a = b) ⟨congrArg _, Except.ok.inj⟩
  | .error e, .error e' => decidable_of_iff (e = e') ⟨congrArg _, Except.error.inj⟩
  | .ok _, .error _ => isFalse nofun
  | .error _, .ok _ => isFalse nofun

theorem bind_eq_ok {x : Except ε α} {f : α → Except ε β} {b : β} (h : x >>= f = .ok b) :
    ∃ a, x = .ok a ∧ f a = .ok b := by
  rcases x with e | a
  · cases h
  · exact ⟨a, rfl, h⟩

theorem bind_eq_ok_iff {x : Except ε α} {f : α → Except ε β} {b : β} :
    x >>= f = .ok b ↔ ∃ a, x = .ok a ∧ f a = .ok b := by
  constructor
  · exact bind_eq_ok
  · rintro ⟨a, rfl, h⟩
    exact h

theorem exists_bind_eq_ok {x : Except ε α} {f : α → Except ε β} :
    (∃ b, x >>= f = .ok b) ↔ ∃ a, x = .ok a ∧ ∃ b, f a = .ok b := by
  constructor
  · rintro ⟨b, h⟩
    obtain ⟨a, ha, hb⟩ := bind_eq_ok h
    exact ⟨a, ha, b, hb⟩
  · rintro ⟨a, rfl, b, hb⟩
    exact ⟨b, hb⟩

theorem bind_eq_error {x : Except ε α} {f : α → Except ε β} {e : ε} :
    x >>= f = .error e ↔ x = .error e ∨ ∃ a, x = .ok a ∧ f a = .error e := by
  cases x with
  | error e' =>
    constructor
    · rintro ⟨⟩
      exact .inl rfl
    · rintro (⟨⟨⟩⟩ | ⟨a, ⟨⟩, -⟩)
      rfl
  | ok a =>
    constructor
    · intro h
      exact .inr ⟨a, rfl, h⟩
    · rintro (⟨⟨⟩⟩ | ⟨_, ⟨⟩, h⟩)
      exact h

/-- Nothing fails behind a step whose result is only put in another form. -/
theorem bind_return_eq_error {x : Except ε α} {f : α → β} {e : ε} :
    (x >>= fun a => pure (f a)) = .error e ↔ x = .error e := by
  rw [bind_eq_error]
  constructor
  · rintro (h | ⟨_, -, ⟨⟩⟩)
    exact h
  · exact .inl

theorem exists_bind_return_eq_ok {x : Except ε α} {f : α → β} :
    (∃ b, (x >>= fun a => pure (f a)) = .ok b) ↔ ∃ a, x = .ok a := by
  rw [exists_bind_eq_ok]
  constructor
  · rintro ⟨a, ha, -⟩
    exact ⟨a, ha⟩
  · rintro ⟨a, ha⟩
    exact ⟨a, ha, _, rfl⟩

theorem guard_eq_ok {c : Prop} [Decidable c] {e : ε} {x : Except ε α} {a : α} :
    (if c then .error e else x) = .ok a ↔ ¬ c ∧ x = .ok a := by
  split <;> simp_all

theorem map_eq_ok {x : Except ε α} {f : α → β} {b : β} (h : x.map f = .ok b) : ∃ a, x = .ok a ∧ f a = b := by
  rcases x with e | a
  · cases h
  · cases h
    exact ⟨a, rfl, rfl⟩

theorem mapError_eq_ok {δ : Type} {x : Except ε α} {f : ε → δ} {a : α} : x.mapError f = .ok a ↔ x = .ok a := by
  rcases x with e | b
  · exact iff_of_false nofun nofun
  · constructor <;> rintro ⟨⟩ <;> rfl

theorem mapError_eq_error {δ : Type} {x : Except ε α} {f : ε → δ} {e : δ} :
    x.mapError f = .error e ↔ ∃ e', x = .error e' ∧ e = f e' := by
  cases x with
  | error e' =>
    constructor
    · rintro ⟨⟩
      exact ⟨e', rfl, rfl⟩
    · rintro ⟨_, ⟨⟩, rfl⟩
      rfl
  | ok a => exact iff_of_false nofun (by rintro ⟨_, ⟨⟩, -⟩)

theorem exists_of_isOk {x : Except ε α} (h : x.isOk) : ∃ a, x = .ok a := by
  rcases x with e | a
  · cases h
  · exact ⟨a, rfl⟩

/-! ## Steps over a list -/

variable {f : α → Except ε β}

theorem mapM_cons_eq_ok {x : α} {l : List α} {r : List β} (h : (x :: l).mapM f = .ok r) :
    ∃ y ys, f x = .ok y ∧ l.mapM f = .ok ys ∧ r = y :: ys := by
  rw [List.mapM_cons] at h
  obtain ⟨y, hy, h⟩ := bind_eq_ok h
  obtain ⟨ys, hys, h⟩ := bind_eq_ok h
  cases h
  exact ⟨y, ys, hy, hys, rfl⟩

theorem mapM_congr {g : α → Except ε β} {l : List α} (h : ∀ x ∈ l, f x = g x) : l.mapM f = l.mapM g := by
  induction l with
  | nil => rfl
  | cons x l ih =>
    obtain ⟨hx, hl⟩ := List.forall_mem_cons.1 h
    rw [List.mapM_cons, List.mapM_cons, hx, ih hl]

/-- The first item of the list that is not `ok` is `bad`. -/
def First (ok bad : α → Prop) (l : List α) : Prop :=
  ∃ earlier x later, l = earlier ++ x :: later ∧ (∀ y ∈ earlier, ok y) ∧ bad x

theorem not_first_nil {ok bad : α → Prop} : ¬ First ok bad [] := by
  rintro ⟨earlier, x, later, h, -⟩
  simp at h

theorem first_cons {ok bad : α → Prop} {x : α} {l : List α} :
    First ok bad (x :: l) ↔ bad x ∨ ok x ∧ First ok bad l := by
  constructor
  · rintro ⟨earlier, y, later, h, hok, hbad⟩
    cases earlier with
    | nil =>
      cases h
      exact .inl hbad
    | cons z earlier =>
      obtain ⟨hz, hrest⟩ := List.forall_mem_cons.1 hok
      cases h
      exact .inr ⟨hz, earlier, y, later, rfl, hrest, hbad⟩
  · rintro (hbad | ⟨hx, earlier, y, later, rfl, hok, hbad⟩)
    · exact ⟨[], x, l, rfl, by simp, hbad⟩
    · exact ⟨x :: earlier, y, later, rfl, List.forall_mem_cons.2 ⟨hx, hok⟩, hbad⟩

theorem first_or_forall (P : α → Prop) (l : List α) : First (fun x => ¬ P x) P l ∨ ∀ x ∈ l, ¬ P x := by
  induction l with
  | nil => exact .inr (by simp)
  | cons x l ih =>
    rw [first_cons, List.forall_mem_cons]
    by_cases hx : P x
    · exact .inl (.inl hx)
    · exact ih.imp (fun h => .inr ⟨hx, h⟩) fun h => ⟨hx, h⟩

theorem exists_mapM_eq_ok {l : List α} : (∃ r, l.mapM f = .ok r) ↔ ∀ x ∈ l, ∃ y, f x = .ok y := by
  induction l with
  | nil => exact iff_of_true ⟨[], rfl⟩ (by simp)
  | cons x l ih =>
    rw [List.forall_mem_cons, ← ih, List.mapM_cons, exists_bind_eq_ok]
    constructor
    · rintro ⟨y, hy, h⟩
      obtain ⟨ys, hys, -⟩ := exists_bind_eq_ok.1 h
      exact ⟨⟨y, hy⟩, ys, hys⟩
    · rintro ⟨⟨y, hy⟩, ys, hys⟩
      exact ⟨y, hy, exists_bind_eq_ok.2 ⟨ys, hys, _, rfl⟩⟩

/-- The error is that of the first step that fails. -/
theorem mapM_eq_error {l : List α} {e : ε} :
    l.mapM f = .error e ↔ First (fun x => ∃ y, f x = .ok y) (fun x => f x = .error e) l := by
  induction l with
  | nil => exact iff_of_false nofun not_first_nil
  | cons x l ih =>
    rw [List.mapM_cons, first_cons, ← ih, bind_eq_error]
    apply or_congr_right
    constructor
    · rintro ⟨y, hy, h⟩
      rcases bind_eq_error.1 h with h | ⟨ys, -, h⟩
      · exact ⟨⟨y, hy⟩, h⟩
      · cases h
    · rintro ⟨⟨y, hy⟩, h⟩
      exact ⟨y, hy, bind_eq_error.2 (.inl h)⟩

end MultiCluster
