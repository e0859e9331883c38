/-
Trimming. What is taken off the end of a text is blank and what is left does not end in a blank (`exists_trimEnd`,
`endsPlain_trimEnd`), so a text is trimmed of exactly the blanks at its ends (`exists_trim`), and blanks put there are
taken off again (`trim_append_blank`).
-/
import MultiCluster.Text.Blank
import Mathlib
namespace MultiCluster.Text

variable {s t b : List Char}

def AllBlank (s : List Char) : Prop := ∀ c ∈ s, isBlank c = true

def NoBlank (s : List Char) : Prop := ∀ c ∈ s, isBlank c = false

/-- The text does not begin with a blank. -/
def BeginsPlain (s : List Char) : Prop := ∀ c ∈ s.head?, isBlank c = false

/-- The text does not end in a blank. -/
def EndsPlain (s : List Char) : Prop := ∀ c ∈ s.getLast?, isBlank c = false

-- not the instance for all characters there are
instance : Decidable (AllBlank s) := List.decidableBAll _ s
instance : Decidable (NoBlank s) := List.decidableBAll _ s
instance : Decidable (BeginsPlain s) := Option.decidableForallMem s.head?
instance : Decidable (EndsPlain s) := Option.decidableForallMem s.getLast?

theorem beginsPlain_reverse : BeginsPlain s.reverse ↔ EndsPlain s := by
  unfold BeginsPlain EndsPlain
  rw [List.head?_reverse]

theorem trimStart_of_beginsPlain (h : BeginsPlain s) : trimStart s = s := by
  cases s with
  | nil => rfl
  | cons c s => simp [trimStart, h c rfl]

theorem beginsPlain_trimStart (s : List Char) : BeginsPlain (trimStart s) := by
  intro c hc
  have hhead := List.head?_dropWhile_not isBlank s
  rw [trimStart, Option.mem_def] at hc
  rw [hc] at hhead
  simpa using hhead

theorem exists_trimStart (s : List Char) : ∃ b, s = b ++ trimStart s ∧ AllBlank b :=
  ⟨s.takeWhile isBlank, List.takeWhile_append_dropWhile.symm, fun _ hc => List.mem_takeWhile_imp hc⟩

theorem endsPlain_append (h : EndsPlain t) (ht : t ≠ []) : EndsPlain (s ++ t) := by
  unfold EndsPlain
  rwa [List.getLast?_append_of_ne_nil s ht]

theorem trimEnd_of_endsPlain (h : EndsPlain s) : trimEnd s = s := by
  have hstart : trimStart s.reverse = s.reverse := trimStart_of_beginsPlain (beginsPlain_reverse.2 h)
  unfold trimStart at hstart
  rw [trimEnd, hstart, List.reverse_reverse]

theorem endsPlain_trimEnd (s : List Char) : EndsPlain (trimEnd s) := by
  rw [← beginsPlain_reverse, trimEnd, List.reverse_reverse]
  exact beginsPlain_trimStart s.reverse

theorem exists_trimEnd (s : List Char) : ∃ b, s = trimEnd s ++ b ∧ AllBlank b := by
  obtain ⟨b, hs, hb⟩ := exists_trimStart s.reverse
  refine ⟨b.reverse, ?_, fun c hc => hb c (List.mem_reverse.1 hc)⟩
  have hreverse := congrArg List.reverse hs
  rwa [List.reverse_reverse, List.reverse_append] at hreverse

/-- Trimming stops at a text that does not end in a blank. -/
theorem trimEnd_append (h : EndsPlain s) : trimEnd (s ++ t) = s ++ trimEnd t := by
  obtain ⟨b, ht, hb⟩ := exists_trimEnd t
  have hplain : EndsPlain (s ++ trimEnd t) := by
    by_cases hempty : trimEnd t = []
    · rwa [hempty, List.append_nil]
    · exact endsPlain_append (endsPlain_trimEnd t) hempty
  calc trimEnd (s ++ t) = trimEnd (s ++ trimEnd t ++ b) := by rw [List.append_assoc, ← ht]
    _ = trimEnd (s ++ trimEnd t) := trimEnd_append_blank hb
    _ = s ++ trimEnd t := trimEnd_of_endsPlain hplain

/-- A text without blanks at its end begins as it did. -/
theorem mem_head?_trimEnd {c : Char} (h : c ∈ (trimEnd s).head?) : c ∈ s.head? := by
  obtain ⟨b, hs, -⟩ := exists_trimEnd s
  rw [hs, List.head?_append, Option.mem_def.1 h]
  rfl

theorem exists_trim (s : List Char) : ∃ b b', s = b ++ trim s ++ b' ∧ AllBlank b ∧ AllBlank b' := by
  obtain ⟨b, hs, hb⟩ := exists_trimStart s
  obtain ⟨b', hs', hb'⟩ := exists_trimEnd (trimStart s)
  refine ⟨b, b', ?_, hb, hb'⟩
  rw [List.append_assoc]
  exact hs.trans (congrArg (b ++ ·) hs')

/-- The blanks around a text are not part of it. -/
theorem trim_append_blank (hb : AllBlank b) (ht : AllBlank t) : trim (b ++ s ++ t) = trim s := by
  rw [trim, trim, List.append_assoc, trimStart_blank_append hb]
  unfold trimStart
  rw [List.dropWhile_append]
  split
  · rename_i hs
    rw [List.isEmpty_iff.1 hs, List.dropWhile_eq_nil_iff.2 ht]
  · exact trimEnd_append_blank ht

end MultiCluster.Text
