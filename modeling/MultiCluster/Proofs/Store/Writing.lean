/-
Writing to the store. One equation or one pair of cases for each call that writes: what it replies, what lies
under each ID after it (`create_eq`, `get?_update`, `get?_delete`), and when it fails. A call that fails leaves
the records and the log as they were (`unchanged_of_error`). Changes that were logged can be made once more
(`replay`), which comes to the same on a store that was only read in between (`Kept.replay`).
-/
import MultiCluster.Proofs.Store.Reachable
namespace MultiCluster.Store

variable {s t : Store} {kind : Kind} {id : String}

theorem get?_insert_of_ne {kind' : Kind} {r : kind'.Record} (h : (kind', kind'.id r) ≠ (kind, id)) :
    (s.insert kind' r).get? kind id = s.get? kind id := by
  rw [get?_insert]
  split
  · rename_i hkind
    subst hkind
    rw [if_neg fun hid => h (congrArg (Prod.mk kind') hid)]
  · rfl

/-! ## Creating -/

/-- What `create` stores of a record. -/
def placed (kind : Kind) (r : kind.Record) (s : Store) : kind.Record :=
  if (kind.id r).isEmpty then kind.withId r (kind.collection ++ "-" ++ toString (s.idCount + 1)) else r

theorem create_eq (kind : Kind) (r : kind.Record) (s : Store) :
    s.create kind r = (s.placed kind r, Store.insert kind (s.placed kind r)
      { s with
        idCount := s.idCount + if (kind.id r).isEmpty then 1 else 0
        log := s.log ++ [.created kind r] }) := by
  unfold create placed
  dsimp only
  split <;> rfl

theorem log_create (kind : Kind) (r : kind.Record) (s : Store) :
    (s.create kind r).2.log = s.log ++ [.created kind r] := by
  rw [create_eq]
  rfl

/-! ## Updating -/

/-- An update is made of a record that is there, and replaces it. -/
theorem update_eq_ok {r r' : kind.Record} {s s' : Store} (h : s.update kind r = (.ok r', s')) :
    r' = r ∧ (∃ old, s.get? kind (kind.id r) = some old) ∧ s' = (s.insert kind r).record (.updated kind r) := by
  unfold update at h
  split at h
  · cases h
  · rename_i old hold
    cases h
    exact ⟨rfl, ⟨old, hold⟩, rfl⟩

theorem update_eq_error {r : kind.Record} {e : Fault} {s s' : Store} (h : s.update kind r = (.error e, s')) :
    s' = s := by
  unfold update at h
  split at h
  · cases h
    rfl
  · cases h

theorem update_fails_iff {r : kind.Record} {e : Fault} :
    (s.update kind r).1 = .error e ↔ e = .notFound kind (kind.id r) ∧ s.get? kind (kind.id r) = none := by
  unfold update
  cases s.get? kind (kind.id r) <;> simp [eq_comm]

theorem get?_update (kind' : Kind) (r : kind'.Record) (s : Store) :
    (s.update kind' r).2.get? kind id =
      if (s.get? kind' (kind'.id r)).isSome then (s.insert kind' r).get? kind id else s.get? kind id := by
  unfold update
  cases s.get? kind' (kind'.id r) <;> rfl

/-! ## Deleting -/

/-- A delete is made of a record that is there, and removes it. -/
theorem delete_eq_ok {r : kind.Record} {s s' : Store} (h : s.delete kind r = (.ok (), s')) :
    (∃ old, s.get? kind (kind.id r) = some old) ∧ s' = { s with
      records := s.records.set kind ((s.records.get kind).erase (kind.id r))
      log := s.log ++ [.deleted kind (kind.id r)] } := by
  unfold delete at h
  split at h
  · cases h
  · rename_i old hold
    cases h
    exact ⟨⟨old, hold⟩, rfl⟩

theorem delete_eq_error {r : kind.Record} {e : Fault} {s s' : Store} (h : s.delete kind r = (.error e, s')) :
    s' = s := by
  unfold delete at h
  split at h
  · cases h
    rfl
  · cases h

theorem delete_fails_iff {r : kind.Record} {e : Fault} :
    (s.delete kind r).1 = .error e ↔ e = .notFound kind (kind.id r) ∧ s.get? kind (kind.id r) = none := by
  unfold delete
  cases s.get? kind (kind.id r) <;> simp [eq_comm]

theorem get?_delete (kind' : Kind) (r : kind'.Record) (s : Store) :
    (s.delete kind' r).2.get? kind id = if (kind', kind'.id r) = (kind, id) then none else s.get? kind id := by
  unfold delete
  cases hold : s.get? kind' (kind'.id r) with
  | none =>
    dsimp only
    split
    · rename_i hplace
      cases hplace
      exact hold
    · rfl
  | some old =>
    by_cases hkind : kind = kind'
    · subst hkind
      simp [get?, record, Dict.get?_erase]
    · rw [if_neg fun h => hkind (congrArg Prod.fst h).symm]
      simp only [get?, record, ByKind.get_set_of_ne _ _ hkind]

/-! ## Failing -/

/-- A call that fails leaves the records and the log as they were. -/
theorem unchanged_of_error {c : Call} {e : Fault} (h : (Client.answer c).run s = (.error e, t)) :
    t.records = s.records ∧ t.log = s.log := by
  have hread : c.IsRead → t.records = s.records ∧ t.log = s.log := fun hc => by
    have hk := kept_answer hc s
    rw [h] at hk
    exact ⟨hk.records, hk.log⟩
  have hsame : t = s → t.records = s.records ∧ t.log = s.log := fun he => he ▸ ⟨rfl, rfl⟩
  cases c with
  | list | next | byId | link | sleep => exact hread trivial
  | create | action => cases h
  | update kind r => exact hsame (update_eq_error h)
  | delete kind r => exact hsame (delete_eq_error h)

/-! ## Replaying -/

/-- Makes a change that was logged once more. -/
def replayed (s : Store) : Change → Store
  | .created kind r => (s.create kind r).2
  | .updated kind r => (s.insert kind r).record (.updated kind r)
  | .deleted kind id =>
    { s with records := s.records.set kind ((s.records.get kind).erase id) }.record (.deleted kind id)
  | .acted kind id name input => s.record (.acted kind id name input)

def replay (s : Store) (changes : List Change) : Store := changes.foldl replayed s

@[simp] theorem replay_nil (s : Store) : s.replay [] = s := rfl

@[simp] theorem replay_cons (s : Store) (c : Change) (changes : List Change) :
    s.replay (c :: changes) = (s.replayed c).replay changes := rfl

theorem replay_append (s : Store) (changes changes' : List Change) :
    s.replay (changes ++ changes') = (s.replay changes).replay changes' := List.foldl_append

theorem log_replay (s : Store) (changes : List Change) : (s.replay changes).log = s.log ++ changes := by
  induction changes generalizing s with
  | nil => simp
  | cons c changes ih =>
    have hlog : (s.replayed c).log = s.log ++ [c] := by
      cases c with
      | created kind r => exact log_create kind r s
      | updated | deleted | acted => rfl
    rw [replay_cons, ih, hlog, List.append_assoc, List.singleton_append]

theorem placed_congr (h : s.Kept t) (kind : Kind) (r : kind.Record) : t.placed kind r = s.placed kind r := by
  rw [placed, placed, h.idCount]

/-- The same change of a store that was only read in between comes to the same. -/
theorem Kept.replayed (h : s.Kept t) (c : Change) : (s.replayed c).Kept (t.replayed c) := by
  cases c with
  | created kind r =>
    show (s.create kind r).2.Kept (t.create kind r).2
    rw [create_eq, create_eq, placed_congr h]
    exact ⟨by simp only [insert, h.records], h.links, h.pageSize, by simp only [insert, h.idCount],
      by simp only [insert, h.log], h.unscripted⟩
  | updated kind r =>
    exact ⟨by simp only [Store.replayed, insert, record, h.records], h.links, h.pageSize, h.idCount,
      by simp only [Store.replayed, insert, record, h.log], h.unscripted⟩
  | deleted kind id =>
    exact ⟨by simp only [Store.replayed, record, h.records], h.links, h.pageSize, h.idCount,
      by simp only [Store.replayed, record, h.log], h.unscripted⟩
  | acted kind id name input =>
    exact ⟨h.records, h.links, h.pageSize, h.idCount, by simp only [Store.replayed, record, h.log], h.unscripted⟩

theorem Kept.replay (h : s.Kept t) (changes : List Change) : (s.replay changes).Kept (t.replay changes) := by
  induction changes generalizing s t with
  | nil => exact h
  | cons c changes ih => exact ih (h.replayed c)

end MultiCluster.Store
