/-
White space and trimming. A character is blank when it has the White_Space property; trimming takes
the blanks off both ends and nothing else.
-/
namespace MultiCluster.Text

/-- The characters with the White_Space property. -/
def isBlank (c : Char) : Bool :=
  let n := c.toNat
  (0x09 ≤ n && n ≤ 0x0D) || n == 0x20 || n == 0x85 || n == 0xA0 || n == 0x1680 ||
  (0x2000 ≤ n && n ≤ 0x200A) || n == 0x2028 || n == 0x2029 || n == 0x202F || n == 0x205F || n == 0x3000

def trimStart (s : List Char) : List Char := s.dropWhile isBlank

def trimEnd (s : List Char) : List Char := (s.reverse.dropWhile isBlank).reverse

/-- The text without the blanks at its two ends. -/
def trim (s : List Char) : List Char := trimEnd (trimStart s)

theorem dropWhile_blank_append {s b : List Char} (h : ∀ c ∈ b, isBlank c = true) :
    (b ++ s).dropWhile isBlank = s.dropWhile isBlank := by
  induction b with
  | nil => rfl
  | cons x b ih =>
    rw [List.cons_append, List.dropWhile_cons, if_pos (h x (by simp))]
    exact ih fun c hc => h c (by simp [hc])

theorem trimStart_blank_append {s b : List Char} (h : ∀ c ∈ b, isBlank c = true) :
    trimStart (b ++ s) = trimStart s := dropWhile_blank_append h

theorem trimEnd_append_blank {s b : List Char} (h : ∀ c ∈ b, isBlank c = true) :
    trimEnd (s ++ b) = trimEnd s := by
  unfold trimEnd
  rw [List.reverse_append, dropWhile_blank_append]
  intro c hc
  exact h c (by simpa using hc)

/-- Letters in upper case become lower case; only the letters A to Z are meant. -/
def asciiLower (s : String) : String := s.map fun c => if 'A' ≤ c ∧ c ≤ 'Z' then Char.ofNat (c.toNat + 32) else c

end MultiCluster.Text
