/-
Buckets that are filled in any order. Entering a value is not symmetric: one that is spelled by names
replaces what is there, one that is spelled by the ID yields to it. Where each spelling gives a scope and
key at most one value, the buckets all the same depend on the entries alone and not on their order: the
value spelled by names stands, and the one spelled by the ID where there is none (`enterAll_order`).
-/
import MultiCluster.Proofs.Answers.Filling
namespace MultiCluster

/-- A value to be entered, under a scope as it is spelled and as it is resolved. -/
structure ScopedValue where
  scope : String
  id : String
  key : String
  value : String
  deriving DecidableEq

namespace Buckets

variable {b b' : Buckets} {l l' done : List ScopedValue} {a : ScopedValue} {id key : String}

/-- Enters the values one after the other. -/
def enterAll (b : Buckets) (l : List ScopedValue) : Buckets :=
  l.foldl (fun b a => b.setValue a.scope a.id a.key a.value) b

/-- For each scope and key at most one value is spelled by the ID and at most one by names. -/
def Unambiguous (l : List ScopedValue) : Prop :=
  ∀ a ∈ l, ∀ a' ∈ l, a.id = a'.id → a.key = a'.key → (a.scope = a.id ↔ a'.scope = a'.id) → a = a'

instance (l : List ScopedValue) : Decidable (Unambiguous l) :=
  inferInstanceAs (Decidable
    (∀ a ∈ l, ∀ a' ∈ l, a.id = a'.id → a.key = a'.key → (a.scope = a.id ↔ a'.scope = a'.id) → a = a'))

theorem Unambiguous.left (h : Unambiguous (done ++ l)) : Unambiguous done := fun a ha a' ha' =>
  h a (List.mem_append_left _ ha) a' (List.mem_append_left _ ha')

/-- The value has its way for `key` in the scope with ID `id`: it is spelled by names, or none is. -/
structure Prevails (l : List ScopedValue) (id key : String) (a : ScopedValue) : Prop where
  mem : a ∈ l
  id_eq : a.id = id
  key_eq : a.key = key
  unnamed : a.scope = id → ∀ a' ∈ l, a'.id = id → a'.key = key → a'.scope = id

/-! ## Values that prevail -/

theorem exists_prevails (h : a ∈ l) : ∃ a', Prevails l a.id a.key a' := by
  by_cases hnamed : ∃ a' ∈ l, a'.id = a.id ∧ a'.key = a.key ∧ a'.scope ≠ a.id
  · obtain ⟨a', hmem, hid, hkey, hscope⟩ := hnamed
    exact ⟨a', hmem, hid, hkey, fun h => absurd h hscope⟩
  · refine ⟨a, h, rfl, rfl, fun _ a' hmem hid hkey => ?_⟩
    exact Classical.byContradiction fun hscope => hnamed ⟨a', hmem, hid, hkey, hscope⟩

theorem Prevails.unique {a' : ScopedValue} (hl : Unambiguous l) (h : Prevails l id key a) (h' : Prevails l id key a') :
    a = a' := by
  refine hl a h.mem a' h'.mem (h.id_eq.trans h'.id_eq.symm) (h.key_eq.trans h'.key_eq.symm) ?_
  rw [h.id_eq, h'.id_eq]
  exact ⟨fun hs => h.unnamed hs a' h'.mem h'.id_eq h'.key_eq, fun hs => h'.unnamed hs a h.mem h.id_eq h.key_eq⟩

theorem prevails_congr (hl : ∀ a, a ∈ l ↔ a ∈ l') : Prevails l id key a ↔ Prevails l' id key a := by
  constructor
  · rintro ⟨hmem, hid, hkey, hun⟩
    exact ⟨(hl a).1 hmem, hid, hkey, fun hs a' ha' => hun hs a' ((hl a').2 ha')⟩
  · rintro ⟨hmem, hid, hkey, hun⟩
    exact ⟨(hl a).2 hmem, hid, hkey, fun hs a' ha' => hun hs a' ((hl a').1 ha')⟩

/-- With a further value another one still prevails where that one is spelled by the ID too or is for another scope
or key, and the further value does where it is spelled by names or none is. -/
theorem prevails_append {x : ScopedValue} : Prevails (done ++ [a]) id key x ↔
    Prevails done id key x ∧ (x.scope = id → a.id = id → a.key = key → a.scope = id) ∨
    x = a ∧ a.id = id ∧ a.key = key ∧ (a.scope = id → ∀ a' ∈ done, a'.id = id → a'.key = key → a'.scope = id) := by
  constructor
  · rintro ⟨hmem, hid, hkey, hun⟩
    have hdone : x.scope = id → ∀ a' ∈ done, a'.id = id → a'.key = key → a'.scope = id := fun hs a' ha' =>
      hun hs a' (List.mem_append_left _ ha')
    rcases List.mem_append.1 hmem with hmem | hmem
    · exact .inl ⟨⟨hmem, hid, hkey, hdone⟩, fun hs => hun hs a (by simp)⟩
    · obtain rfl := List.mem_singleton.1 hmem
      exact .inr ⟨rfl, hid, hkey, hdone⟩
  · rintro (⟨⟨hmem, hid, hkey, hun⟩, ha⟩ | ⟨rfl, hid, hkey, hun⟩)
    · exact ⟨List.mem_append_left _ hmem, hid, hkey, fun hs =>
        List.forall_mem_append.2 ⟨hun hs, List.forall_mem_singleton.2 (ha hs)⟩⟩
    · exact ⟨by simp, hid, hkey, fun hs =>
        List.forall_mem_append.2 ⟨hun hs, List.forall_mem_singleton.2 fun _ _ => hs⟩⟩

theorem prevails_append_of_ne {x : ScopedValue} (hne : ¬ (a.id = id ∧ a.key = key)) :
    Prevails (done ++ [a]) id key x ↔ Prevails done id key x := by
  rw [prevails_append]
  constructor
  · rintro (⟨h, -⟩ | ⟨-, hid, hkey, -⟩)
    · exact h
    · exact absurd ⟨hid, hkey⟩ hne
  · exact fun h => .inl ⟨h, fun _ hid hkey => absurd ⟨hid, hkey⟩ hne⟩

/-- A further value that is spelled by the ID changes nothing where there is one already. -/
theorem prevails_append_of_held {x y : ScopedValue} (hl : Unambiguous (done ++ [a])) (hscope : a.scope = a.id)
    (hy : Prevails done a.id a.key y) : Prevails (done ++ [a]) id key x ↔ Prevails done id key x := by
  by_cases hsame : a.id = id ∧ a.key = key
  · obtain ⟨rfl, rfl⟩ := hsame
    have hkeep : Prevails (done ++ [a]) a.id a.key y := prevails_append.2 (.inl ⟨hy, fun _ _ _ => hscope⟩)
    constructor
    · intro hx
      rwa [hx.unique hl hkeep]
    · intro hx
      rwa [hx.unique hl.left hy]
  · exact prevails_append_of_ne hsame

/-! ## Buckets of the values so far -/

/-- The buckets of the values `done`, whatever their order was. -/
structure Merged (done : List ScopedValue) (b : Buckets) : Prop where
  mem : ∀ id, id ∈ b ↔ ∃ a ∈ done, a.id = id
  value : ∀ id key v, (b.bucket id).get? key = some v ↔ ∃ a, Prevails done id key a ∧ a.value = v

theorem merged_nil : Merged [] ∅ where
  mem id := by
    constructor
    · intro h
      cases h
    · rintro ⟨a, ha, -⟩
      cases ha
  value id key v := by
    constructor
    · intro h
      cases h
    · rintro ⟨a, ha, -⟩
      cases ha.mem

namespace Merged

theorem exists_mem_append : (∃ x ∈ done ++ [a], x.id = id) ↔ (∃ x ∈ done, x.id = id) ∨ a.id = id := by
  simp only [List.mem_append, List.mem_singleton, or_and_right, exists_or, exists_eq_left]

/-- The next value yields to the one that is there. -/
theorem skip (h : Merged done b) (hl : Unambiguous (done ++ [a])) (hheld : a.key ∈ b.bucket a.id)
    (hscope : a.scope = a.id) : Merged (done ++ [a]) b := by
  obtain ⟨v, hv⟩ := Dict.mem_iff_exists.1 hheld
  obtain ⟨y, hy, -⟩ := (h.value a.id a.key v).1 hv
  refine ⟨fun id => ?_, fun id key v => ?_⟩
  · rw [h.mem, exists_mem_append]
    refine ⟨.inl, fun hid => hid.elim (fun hid => hid) fun hid => ?_⟩
    exact ⟨y, hy.mem, hy.id_eq.trans hid⟩
  · simp only [h.value, prevails_append_of_held hl hscope hy]

/-- The next value takes its place: it is spelled by names, or there is none for its scope and key. -/
theorem put (h : Merged done b) (hl : Unambiguous (done ++ [a])) (hfree : a.key ∈ b.bucket a.id → a.scope ≠ a.id) :
    Merged (done ++ [a]) (b.insert a.id ((b.bucket a.id).insert a.key a.value)) := by
  have hprevails : Prevails (done ++ [a]) a.id a.key a := by
    refine prevails_append.2 (.inr ⟨rfl, rfl, rfl, fun hs a' ha' hid hkey => ?_⟩)
    -- something is there for the key of `a'`, so `a` is spelled by names
    obtain ⟨y, hy⟩ := exists_prevails ha'
    rw [hid, hkey] at hy
    have hheld : a.key ∈ b.bucket a.id := Dict.mem_iff_exists.2 ⟨y.value, (h.value _ _ _).2 ⟨y, hy, rfl⟩⟩
    exact absurd hs (hfree hheld)
  refine ⟨fun id => ?_, fun id key v => ?_⟩
  · rw [exists_mem_append, ← h.mem]
    show (Dict.get? _ id).isSome = true ↔ (b.get? id).isSome = true ∨ a.id = id
    rw [Dict.get?_insert]
    split
    · rename_i hid
      exact iff_of_true rfl (.inr hid)
    · rename_i hid
      exact (or_iff_left hid).symm
  · rw [FlatAnswers.get?_bucket_insert]
    split
    · rename_i hsame
      obtain ⟨rfl, rfl⟩ := hsame
      constructor
      · intro hv
        exact ⟨a, hprevails, Option.some.inj hv⟩
      · rintro ⟨x, hx, rfl⟩
        rw [hx.unique hl hprevails]
    · rename_i hne
      simp only [h.value, prevails_append_of_ne hne]

/-- Entering the next value. -/
theorem setValue (h : Merged done b) (hl : Unambiguous (done ++ [a])) :
    Merged (done ++ [a]) (b.setValue a.scope a.id a.key a.value) := by
  unfold Buckets.setValue
  split
  · rename_i htaken
    exact h.skip hl htaken.1 htaken.2
  · rename_i hfree
    exact h.put hl fun hheld hs => hfree ⟨hheld, hs⟩

theorem enterAll (h : Merged done b) (hl : Unambiguous (done ++ l)) : Merged (done ++ l) (b.enterAll l) := by
  induction l generalizing done b with
  | nil => simpa [Buckets.enterAll] using h
  | cons a l ih =>
    rw [List.append_cons] at hl ⊢
    exact ih (h.setValue hl.left) hl

/-- Buckets of the same values are the same. -/
theorem unique (h : Merged l b) (h' : Merged l' b') (hl : ∀ a, a ∈ l ↔ a ∈ l') : b = b' := by
  have hmem : ∀ id, id ∈ b ↔ id ∈ b' := fun id => by simp only [h.mem, h'.mem, hl]
  have hvalue : ∀ id key, (b.bucket id).get? key = (b'.bucket id).get? key := fun id key =>
    Option.ext fun v => by
      simp only [h.value, h'.value, prevails_congr hl]
  refine Dict.ext_get? fun id => ?_
  rcases hb : b.get? id with _ | d
  · rcases hb' : b'.get? id with _ | d'
    · rfl
    · obtain ⟨d, hd⟩ := Dict.mem_iff_exists.1 ((hmem id).2 (Dict.mem_of_get? hb'))
      rw [hb] at hd
      cases hd
  · obtain ⟨d', hb'⟩ := Dict.mem_iff_exists.1 ((hmem id).1 (Dict.mem_of_get? hb))
    rw [hb']
    refine congrArg some (Dict.ext_get? fun key => ?_)
    have hk := hvalue id key
    rwa [bucket, bucket, hb, hb'] at hk

end Merged

/-! ## Order -/

/-- Values of which each spelling gives a scope and key at most one leave the same buckets in any order, and
however often they are entered: there is a bucket for each scope that has a value, and it holds for each key the
value that is spelled by names, or the one spelled by the ID where there is none. -/
theorem enterAll_order (hl : Unambiguous l) (hsame : ∀ a, a ∈ l ↔ a ∈ l') :
    enterAll ∅ l' = enterAll ∅ l ∧
    (∀ id, id ∈ enterAll ∅ l ↔ ∃ a ∈ l, a.id = id) ∧
    ∀ id key v, ((enterAll ∅ l).bucket id).get? key = some v ↔ ∃ a, Prevails l id key a ∧ a.value = v := by
  have hl' : Unambiguous l' := fun a ha a' ha' => hl a ((hsame a).2 ha) a' ((hsame a').2 ha')
  have hmerged : Merged l (enterAll ∅ l) := merged_nil.enterAll hl
  have hmerged' : Merged l' (enterAll ∅ l') := merged_nil.enterAll hl'
  exact ⟨hmerged'.unique hmerged fun a => (hsame a).symm, hmerged.mem, hmerged.value⟩

/-- The name of the cluster stands over its ID, whether it is entered before or behind. -/
theorem enterAll_order_prod :
    enterAll ∅ [⟨"prod", "c-1", "size", "2"⟩, ⟨"c-1", "c-1", "size", "1"⟩, ⟨"c-1", "c-1", "zone", "eu"⟩] =
        enterAll ∅ [⟨"c-1", "c-1", "zone", "eu"⟩, ⟨"c-1", "c-1", "size", "1"⟩, ⟨"prod", "c-1", "size", "2"⟩] ∧
      enterAll ∅ [⟨"c-1", "c-1", "zone", "eu"⟩, ⟨"c-1", "c-1", "size", "1"⟩, ⟨"prod", "c-1", "size", "2"⟩] =
        Dict.ofList [("c-1", Dict.ofList [("size", "2"), ("zone", "eu")])] :=
  ⟨(enterAll_order (by decide) (by simp only [List.mem_cons, List.not_mem_nil]; grind)).1, by decide⟩

end Buckets

end MultiCluster
