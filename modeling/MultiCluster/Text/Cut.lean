/-
Cutting text at a separator. A text is handled as its list of characters; `cut?` splits at the
first separator and `split` at every one, and joining the pieces with the separator gives the text
back (`cut?_eq_some_iff`, `join_split`).
-/
namespace MultiCluster.Text

/-- The parts before and after the first `c`, if there is one. -/
def cut? (c : Char) : List Char → Option (List Char × List Char)
  | [] => none
  | x :: r => if x = c then some ([], r) else (cut? c r).map fun p => (x :: p.1, p.2)

theorem cut?_eq_none_iff {c : Char} {s : List Char} : cut? c s = none ↔ c ∉ s := by
  induction s with
  | nil => simp [cut?]
  | cons x r ih =>
    by_cases h : x = c
    · simp [cut?, h]
    · simp [cut?, h, ih, Ne.symm h]

/-- A cut takes out one separator, the first. -/
theorem cut?_eq_some_iff {c : Char} {s a b : List Char} :
    cut? c s = some (a, b) ↔ s = a ++ c :: b ∧ c ∉ a := by
  induction s generalizing a b with
  | nil => simp [cut?]
  | cons x r ih =>
    by_cases h : x = c
    · subst h
      cases a with
      | nil => simp [cut?]
      | cons y a => simp +contextual [cut?]
    · cases a with
      | nil => simp [cut?, h]
      | cons y a =>
        simp only [cut?, h, if_false, Option.map_eq_some_iff, Prod.mk.injEq, Prod.exists,
          List.cons_append, List.cons.injEq, List.mem_cons, not_or]
        constructor
        · rintro ⟨a', b', hr, ⟨rfl, rfl⟩, rfl⟩
          obtain ⟨rfl, hn⟩ := ih.1 hr
          exact ⟨⟨rfl, rfl⟩, Ne.symm h, hn⟩
        · rintro ⟨⟨rfl, rfl⟩, _, hn⟩
          exact ⟨a, b, ih.2 ⟨rfl, hn⟩, ⟨rfl, rfl⟩, rfl⟩

/-- The first separator is in one place. -/
theorem eq_of_append_cons {c : Char} {a a' b b' : List Char} (ha : c ∉ a) (ha' : c ∉ a')
    (h : a ++ c :: b = a' ++ c :: b') :
    a = a' ∧ b = b' := by
  have hcut := (cut?_eq_some_iff.2 ⟨rfl, ha⟩ : cut? c (a ++ c :: b) = some (a, b))
  rw [h, cut?_eq_some_iff.2 ⟨rfl, ha'⟩] at hcut
  cases hcut
  exact ⟨rfl, rfl⟩

/-- The last separator is in one place. -/
theorem eq_of_append_cons_last {c : Char} {a a' b b' : List Char} (hb : c ∉ b) (hb' : c ∉ b')
    (h : a ++ c :: b = a' ++ c :: b') : a = a' ∧ b = b' := by
  have hreverse : b.reverse ++ c :: a.reverse = b'.reverse ++ c :: a'.reverse := by
    simpa using congrArg List.reverse h
  obtain ⟨hb, ha⟩ := eq_of_append_cons (by simpa using hb) (by simpa using hb') hreverse
  exact ⟨List.reverse_inj.1 ha, List.reverse_inj.1 hb⟩

/-- The pieces between separators; one more than there are separators. -/
def split (c : Char) : List Char → List (List Char)
  | [] => [[]]
  | x :: r =>
    if x = c then [] :: split c r
    else match split c r with
      | [] => [[x]]
      | p :: ps => (x :: p) :: ps

/-- Puts `sep` between the pieces. -/
def join (sep : List Char) : List (List Char) → List Char
  | [] => []
  | [p] => p
  | p :: q :: r => p ++ sep ++ join sep (q :: r)

theorem split_ne_nil (c : Char) (s : List Char) : split c s ≠ [] := by
  cases s with
  | nil => simp [split]
  | cons x r =>
    unfold split
    by_cases h : x = c
    · simp [h]
    · simp only [h, if_false]
      cases split c r <;> simp

theorem split_of_not_mem {c : Char} {s : List Char} (h : c ∉ s) : split c s = [s] := by
  induction s with
  | nil => rfl
  | cons x r ih =>
    simp only [List.mem_cons, not_or] at h
    simp only [split, if_neg (Ne.symm h.1), ih h.2]

theorem split_append {c : Char} {p : List Char} (s : List Char) (h : c ∉ p) :
    split c (p ++ c :: s) = p :: split c s := by
  induction p with
  | nil => simp [split]
  | cons x r ih =>
    simp only [List.mem_cons, not_or] at h
    simp only [List.cons_append, split, if_neg (Ne.symm h.1), ih h.2]

/-- The pieces on both sides of any separator. -/
theorem split_append_split (c : Char) (p s : List Char) : split c (p ++ c :: s) = split c p ++ split c s := by
  induction p with
  | nil => simp [split]
  | cons x r ih =>
    simp only [List.cons_append, split, ih]
    split
    · rfl
    · cases h : split c r with
      | nil => exact absurd h (split_ne_nil c r)
      | cons q qs => rfl

theorem join_split (c : Char) (s : List Char) : join [c] (split c s) = s := by
  induction s with
  | nil => rfl
  | cons x r ih =>
    unfold split
    by_cases h : x = c
    · subst h
      simp only [if_true]
      cases hs : split x r with
      | nil => exact absurd hs (split_ne_nil x r)
      | cons p ps =>
        rw [hs] at ih
        simp [join, ih]
    · simp only [h, if_false]
      cases hs : split c r with
      | nil => exact absurd hs (split_ne_nil c r)
      | cons p ps =>
        rw [hs] at ih
        cases ps with
        | nil => simpa [join] using ih
        | cons q qs => simpa [join] using ih

/-- The rest of `s` behind the leading `p`. -/
def dropPrefix? : List Char → List Char → Option (List Char)
  | [], s => some s
  | _ :: _, [] => none
  | x :: p, y :: s => if x = y then dropPrefix? p s else none

theorem dropPrefix?_eq_some_iff {p s r : List Char} : dropPrefix? p s = some r ↔ s = p ++ r := by
  induction p generalizing s with
  | nil => simp [dropPrefix?, eq_comm]
  | cons x p ih =>
    cases s with
    | nil => simp [dropPrefix?]
    | cons y s =>
      by_cases h : x = y
      · simp [dropPrefix?, h, ih]
      · simp [dropPrefix?, h, Ne.symm h]

/-- The part of `s` before the trailing `p`. -/
def dropSuffix? (p s : List Char) : Option (List Char) :=
  (dropPrefix? p.reverse s.reverse).map List.reverse

theorem dropSuffix?_eq_some_iff {p s r : List Char} : dropSuffix? p s = some r ↔ s = r ++ p := by
  unfold dropSuffix?
  simp only [Option.map_eq_some_iff, dropPrefix?_eq_some_iff]
  constructor
  · rintro ⟨a, h, rfl⟩
    have := congrArg List.reverse h
    simpa using this
  · rintro rfl
    exact ⟨r.reverse, by simp, by simp⟩

/-- Texts with `sep` between them. -/
def commaList (sep : String) (xs : List String) : String :=
  String.ofList (join sep.toList (xs.map String.toList))

end MultiCluster.Text
