/-
Maps from texts to values, listed in ascending order of the texts. The listing is kept strictly
ascending by the type, so a map is determined by its lookups (`ext_get?`): two maps that answer every
`get?` alike are equal.
-/
namespace MultiCluster

/-- Keys are pairwise ascending. -/
abbrev Ascending {α : Type} (l : List (String × α)) : Prop := l.Pairwise fun a b => a.1 < b.1

/-- A map with text keys; entries are listed in ascending key order. -/
structure Dict (α : Type) where
  toList : List (String × α)
  ascending : Ascending toList

namespace Dict

variable {α β : Type}

instance [BEq α] : BEq (Dict α) := ⟨fun a b => a.toList == b.toList⟩

instance [DecidableEq α] : DecidableEq (Dict α) := fun a b =>
  decidable_of_iff (a.toList = b.toList) ⟨fun h => by cases a; cases b; simp_all, fun h => h ▸ rfl⟩

def empty : Dict α := ⟨[], .nil⟩

instance : EmptyCollection (Dict α) := ⟨empty⟩
instance : Inhabited (Dict α) := ⟨empty⟩

def isEmpty (d : Dict α) : Bool := d.toList.isEmpty

def size (d : Dict α) : Nat := d.toList.length

def keys (d : Dict α) : List String := d.toList.map Prod.fst

def values (d : Dict α) : List α := d.toList.map Prod.snd

/-- The value of the first entry with key `k`. -/
def find (k : String) : List (String × α) → Option α
  | [] => none
  | (k', v) :: r => if k' = k then some v else find k r

def get? (d : Dict α) (k : String) : Option α := find k d.toList

def contains (d : Dict α) (k : String) : Bool := (d.get? k).isSome

instance : Membership String (Dict α) := ⟨fun d k => (d.get? k).isSome = true⟩

/-- Puts `(k, v)` at its place, in place of an entry with the same key. -/
def insertAt (k : String) (v : α) : List (String × α) → List (String × α)
  | [] => [(k, v)]
  | (k', v') :: r =>
    if k < k' then (k, v) :: (k', v') :: r
    else if k = k' then (k, v) :: r
    else (k', v') :: insertAt k v r

theorem mem_insertAt {k : String} {v : α} {l : List (String × α)} {p : String × α}
    (h : p ∈ insertAt k v l) : p = (k, v) ∨ p ∈ l := by
  induction l with
  | nil => simpa [insertAt] using h
  | cons q r ih =>
    obtain ⟨k', v'⟩ := q
    unfold insertAt at h
    split at h
    · simpa using h
    · split at h
      · rcases List.mem_cons.1 h with h | h <;> simp [h]
      · rcases List.mem_cons.1 h with h | h
        · simp [h]
        · rcases ih h with h | h <;> simp [h]

theorem lt_of_not_lt_of_ne {a b : String} (h : ¬ a < b) (hne : a ≠ b) : b < a := by
  rcases String.le_total a b with hl | hl
  · exact absurd (String.le_antisymm hl (String.not_lt.1 h)) hne
  · exact Classical.byContradiction fun hn => hne (String.le_antisymm (String.not_lt.1 hn) hl)

theorem ascending_insertAt {k : String} {v : α} {l : List (String × α)} (h : Ascending l) :
    Ascending (insertAt k v l) := by
  induction l with
  | nil => simp [insertAt]
  | cons q r ih =>
    obtain ⟨k', v'⟩ := q
    obtain ⟨hq, hr⟩ := List.pairwise_cons.1 h
    unfold insertAt
    split
    · rename_i hlt
      refine List.pairwise_cons.2 ⟨fun p hp => ?_, h⟩
      rcases List.mem_cons.1 hp with rfl | hp
      · exact hlt
      · exact String.lt_trans hlt (hq p hp)
    · rename_i hlt
      split
      · rename_i he
        subst he
        exact List.pairwise_cons.2 ⟨fun p hp => hq p hp, hr⟩
      · rename_i hne
        refine List.pairwise_cons.2 ⟨fun p hp => ?_, ih hr⟩
        rcases mem_insertAt hp with rfl | hp
        · exact lt_of_not_lt_of_ne hlt hne
        · exact hq p hp

def insert (d : Dict α) (k : String) (v : α) : Dict α := ⟨insertAt k v d.toList, ascending_insertAt d.ascending⟩

/-- Keeps the entries that pass. -/
def filter (p : String → α → Bool) (d : Dict α) : Dict α :=
  ⟨d.toList.filter fun e => p e.1 e.2, d.ascending.filter _⟩

def erase (d : Dict α) (k : String) : Dict α := d.filter fun k' _ => k' != k

def map (f : α → β) (d : Dict α) : Dict β :=
  ⟨d.toList.map fun e => (e.1, f e.2), by
    have := d.ascending
    simpa [Ascending, List.pairwise_map] using this⟩

/-- Enters the pairs one after the other, so the last value of a repeated key stands. -/
def insertMany (d : Dict α) (l : List (String × α)) : Dict α := l.foldl (fun d e => d.insert e.1 e.2) d

def ofList (l : List (String × α)) : Dict α := insertMany ∅ l

/-! ## Lookups -/

theorem find_insertAt {k k' : String} {v : α} {l : List (String × α)} (h : Ascending l) :
    find k' (insertAt k v l) = if k = k' then some v else find k' l := by
  induction l with
  | nil => simp [insertAt, find]
  | cons q r ih =>
    obtain ⟨a, b⟩ := q
    obtain ⟨hq, hr⟩ := List.pairwise_cons.1 h
    unfold insertAt
    split
    · simp [find]
    · split
      · rename_i he
        subst he
        by_cases hk : k = k' <;> simp [find, hk]
      · rename_i hne
        by_cases ha : a = k'
        · subst ha; simp [find, hne]
        · simp [find, ha, ih hr]

@[simp] theorem get?_empty (k : String) : (∅ : Dict α).get? k = none := rfl

theorem get?_insert (d : Dict α) (k k' : String) (v : α) :
    (d.insert k v).get? k' = if k = k' then some v else d.get? k' := find_insertAt d.ascending

@[simp] theorem get?_insert_self (d : Dict α) (k : String) (v : α) : (d.insert k v).get? k = some v := by
  simp [get?_insert]

theorem isEmpty_insert (d : Dict α) (k : String) (v : α) : (d.insert k v).isEmpty = false := by
  have h := get?_insert_self d k v
  unfold isEmpty
  cases hl : (d.insert k v).toList with
  | nil => rw [get?, hl] at h; cases h
  | cons => rfl

theorem find_eq_some_iff {k : String} {v : α} {l : List (String × α)} (h : Ascending l) :
    find k l = some v ↔ (k, v) ∈ l := by
  induction l with
  | nil => simp [find]
  | cons q r ih =>
    obtain ⟨a, b⟩ := q
    obtain ⟨hq, hr⟩ := List.pairwise_cons.1 h
    by_cases ha : a = k
    · subst ha
      have : (a, v) ∉ r := fun hm => String.lt_irrefl a (hq _ hm)
      simp [find, this, eq_comm]
    · simp [find, ha, ih hr, Ne.symm ha]

theorem get?_eq_some_iff {d : Dict α} {k : String} {v : α} : d.get? k = some v ↔ (k, v) ∈ d.toList :=
  find_eq_some_iff d.ascending

theorem mem_iff_exists {d : Dict α} {k : String} : k ∈ d ↔ ∃ v, d.get? k = some v := Option.isSome_iff_exists

theorem mem_of_get? {d : Dict α} {k : String} {v : α} (h : d.get? k = some v) : k ∈ d := mem_iff_exists.2 ⟨v, h⟩

theorem mem_keys {d : Dict α} {k : String} : k ∈ d.keys ↔ k ∈ d := by
  simp [keys, mem_iff_exists, get?_eq_some_iff]

theorem get?_filter (d : Dict α) (p : String → α → Bool) (k : String) :
    (d.filter p).get? k = (d.get? k).filter (p k) := by
  ext v
  rw [get?_eq_some_iff, Option.filter_eq_some_iff, get?_eq_some_iff]
  simp [filter]

theorem get?_erase (d : Dict α) (k k' : String) :
    (d.erase k).get? k' = if k = k' then none else d.get? k' := by
  rw [erase, get?_filter]
  by_cases h : k = k'
  · subst h
    cases d.get? k <;> simp [Option.filter]
  · cases d.get? k' <;> simp [Option.filter, h, Ne.symm h]

theorem size_erase_lt {d : Dict α} {k : String} {v : α} (h : d.get? k = some v) : (d.erase k).size < d.size := by
  have hm : (k, v) ∈ d.toList := get?_eq_some_iff.1 h
  have := List.length_filter_lt_length_iff_exists (p := fun e : String × α => e.1 != k) (l := d.toList)
  exact this.2 ⟨(k, v), hm, by simp⟩

theorem insertMany_cons (d : Dict α) (e : String × α) (l : List (String × α)) :
    d.insertMany (e :: l) = (d.insert e.1 e.2).insertMany l := rfl

theorem insertMany_append (d : Dict α) (l l' : List (String × α)) :
    d.insertMany (l ++ l') = (d.insertMany l).insertMany l' := List.foldl_append

theorem get?_insertMany_of_not_mem {d : Dict α} {l : List (String × α)} {k : String} (h : ∀ e ∈ l, e.1 ≠ k) :
    (d.insertMany l).get? k = d.get? k := by
  induction l generalizing d with
  | nil => rfl
  | cons e l ih =>
    obtain ⟨he, hl⟩ := List.forall_mem_cons.1 h
    exact (ih hl).trans (by rw [get?_insert, if_neg he])

theorem mem_of_get?_insertMany {d : Dict α} {l : List (String × α)} {k : String} {v : α}
    (h : (d.insertMany l).get? k = some v) : (k, v) ∈ l ∨ d.get? k = some v := by
  induction l generalizing d with
  | nil => exact .inr h
  | cons e l ih =>
    rcases ih h with hm | hg
    · exact .inl (List.mem_cons_of_mem _ hm)
    · rw [get?_insert] at hg
      split at hg
      · rename_i he
        cases hg
        exact .inl (he ▸ List.mem_cons_self ..)
      · exact .inr hg

/-- A value is found where no pair gives its key another one. -/
theorem get?_insertMany_of_mem {d : Dict α} {l : List (String × α)} {k : String} {v : α} (h : (k, v) ∈ l)
    (hv : ∀ v', (k, v') ∈ l → v' = v) : (d.insertMany l).get? k = some v := by
  induction l generalizing d with
  | nil => cases h
  | cons e l ih =>
    by_cases hm : (k, v) ∈ l
    · exact ih hm fun v' hv' => hv v' (List.mem_cons_of_mem _ hv')
    · have he : e = (k, v) := ((List.mem_cons.1 h).resolve_right hm).symm
      subst he
      have hl : ∀ e ∈ l, e.1 ≠ k := by
        rintro ⟨k', v'⟩ he rfl
        exact hm (hv v' (List.mem_cons_of_mem _ he) ▸ he)
      exact (get?_insertMany_of_not_mem hl).trans (get?_insert_self d k v)

theorem ext_list {l l' : List (String × α)} (h : Ascending l) (h' : Ascending l')
    (hm : ∀ p, p ∈ l ↔ p ∈ l') : l = l' := by
  induction l generalizing l' with
  | nil =>
    cases l' with
    | nil => rfl
    | cons q r => exact absurd ((hm q).2 (by simp)) (by simp)
  | cons q r ih =>
    cases l' with
    | nil => exact absurd ((hm q).1 (by simp)) (by simp)
    | cons q' r' =>
      obtain ⟨hq, hr⟩ := List.pairwise_cons.1 h
      obtain ⟨hq', hr'⟩ := List.pairwise_cons.1 h'
      have he : q = q' := by
        rcases List.mem_cons.1 ((hm q).1 (by simp)) with he | he
        · exact he
        · rcases List.mem_cons.1 ((hm q').2 (by simp)) with hf | hf
          · exact hf.symm
          · exact absurd (String.lt_trans (hq' q he) (hq q' hf)) (String.lt_irrefl _)
      subst he
      rw [ih hr hr' fun p => ?_]
      have := hm p
      simp only [List.mem_cons] at this
      constructor
      · intro hp
        rcases this.1 (Or.inr hp) with rfl | hp'
        · exact absurd (hq p hp) (String.lt_irrefl _)
        · exact hp'
      · intro hp
        rcases this.2 (Or.inr hp) with rfl | hp'
        · exact absurd (hq' p hp) (String.lt_irrefl _)
        · exact hp'

/-- A map is determined by its lookups. -/
theorem ext_get? {d e : Dict α} (h : ∀ k, d.get? k = e.get? k) : d = e := by
  have : d.toList = e.toList := ext_list d.ascending e.ascending fun p => by
    obtain ⟨k, v⟩ := p
    rw [← get?_eq_some_iff, ← get?_eq_some_iff, h]
  cases d; cases e; simp_all

end Dict

end MultiCluster
