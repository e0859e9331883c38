/-
Tables read back. The columns in front of a column take their widths and two spaces each (`drop_cells`), what stands
behind them begins with the cell and spaces up to the width (`exists_take_cells`), and trimming a line takes nothing
but spaces off it (`exists_line`). So the cells of a table are found in its text again once the widths are known, and
these are the lengths of the longest cells (`isGreatest_width`).
-/
import MultiCluster.Proofs.Text.Blank
import MultiCluster.Report.Table
import MultiCluster.Text.Cut
import Mathlib
namespace MultiCluster

/-! ## Spaces -/

namespace Text

variable {s p : List Char} {c : Char}

theorem allBlank_replicate (n : Nat) : AllBlank (List.replicate n ' ') := by
  intro c hc
  rw [(List.mem_replicate.1 hc).2]
  decide

theorem trimEnd_append_replicate (h : EndsPlain p) (n : Nat) : trimEnd (p ++ List.replicate n ' ') = p := by
  rw [trimEnd_append_blank (allBlank_replicate n), trimEnd_of_endsPlain h]

/-- The text without the spaces at its end. -/
def stripSpaces (s : List Char) : List Char := s.rdropWhile (· = ' ')

theorem stripSpaces_append_replicate (n : Nat) : stripSpaces (s ++ List.replicate n ' ') = stripSpaces s := by
  unfold stripSpaces
  rw [List.rdropWhile, List.reverse_append, List.dropWhile_append_of_pos, List.rdropWhile]
  simp +contextual

theorem stripSpaces_of_endsPlain (h : EndsPlain s) : stripSpaces s = s := by
  rw [stripSpaces, List.rdropWhile_eq_self_iff]
  intro hs hspace
  have hplain := h _ (List.getLast?_eq_getLast_of_ne_nil hs)
  rw [of_decide_eq_true hspace] at hplain
  exact absurd hplain (by decide)

/-- Lines that are ended one by one are the pieces between the ends, and nothing is left behind the last. -/
theorem split_flatMap {lines : List (List Char)} (h : ∀ l ∈ lines, c ∉ l) :
    split c (lines.flatMap fun l => l ++ [c]) = lines ++ [[]] := by
  induction lines with
  | nil => rfl
  | cons l lines ih =>
    obtain ⟨hl, hlines⟩ := List.forall_mem_cons.1 h
    rw [List.flatMap_cons, List.append_assoc, List.singleton_append, split_append_split, split_of_not_mem hl, ih hlines]
    rfl

end Text

namespace Table

variable {t : Table} {row : List String}

/-! ## What can be read back -/

/-- No cell of the row ends in a blank or holds a newline. -/
def PlainRow (row : List String) : Prop := ∀ s ∈ row, '\n' ∉ s.toList ∧ Text.EndsPlain s.toList

instance : Decidable (PlainRow row) :=
  inferInstanceAs (Decidable (∀ s ∈ row, '\n' ∉ s.toList ∧ Text.EndsPlain s.toList))

/-- The cells are plain, and all fit the greatest width there is. -/
structure Legible (t : Table) : Prop where
  plain : ∀ row ∈ t.headers :: t.rows, PlainRow row
  short : ∀ row ∈ t.headers :: t.rows, ∀ s ∈ row, s.length < 2 ^ 16

/-- Where column `j` starts. -/
def offset (t : Table) (j : Nat) : Nat := ((List.range j).map fun i => t.width i + 2).sum

/-- What a line shows in column `j`. -/
def readCell (t : Table) (j : Nat) (line : List Char) : List Char :=
  Text.stripSpaces ((line.drop (t.offset j)).take (t.width j))

theorem offset_succ (t : Table) (j : Nat) : t.offset (j + 1) = t.offset j + (t.width j + 2) := by
  simp [offset, List.range_succ]

theorem mem_row_or_cell_eq (row : List String) (j : Nat) : cell row j ∈ row ∨ cell row j = "" := by
  unfold cell
  cases h : row[j]? with
  | none => exact .inr rfl
  | some s => exact .inl (List.mem_of_getElem? h)

theorem PlainRow.cell (h : PlainRow row) (j : Nat) :
    '\n' ∉ (cell row j).toList ∧ Text.EndsPlain (cell row j).toList := by
  rcases mem_row_or_cell_eq row j with hmem | hempty
  · exact h _ hmem
  · rw [hempty]
    decide

/-! ## Widths -/

theorem isGreatest_width (t : Table) (j : Nat) :
    IsGreatest {n | ∃ row ∈ t.headers :: t.rows, (cell row j).length = n} (t.width j) := by
  have hmax : ((t.headers :: t.rows).map fun row => (cell row j).length).max? = some (t.width j) := by
    rw [width, List.map_cons, List.max?_cons', List.foldl_cons, Nat.zero_max]
  rw [List.max?_eq_some_iff, List.mem_map, List.forall_mem_map] at hmax
  refine ⟨hmax.1, ?_⟩
  rintro _ ⟨row, hrow, rfl⟩
  exact hmax.2 row hrow

theorem length_cell_le (hrow : row ∈ t.headers :: t.rows) (j : Nat) : (cell row j).length ≤ t.width j :=
  (t.isGreatest_width j).2 ⟨row, hrow, rfl⟩

theorem Legible.width_lt (h : t.Legible) (j : Nat) : t.width j < 2 ^ 16 := by
  obtain ⟨row, hrow, hwidth⟩ := (t.isGreatest_width j).1
  rw [← hwidth]
  rcases mem_row_or_cell_eq row j with hmem | hempty
  · exact h.short row hrow _ hmem
  · rw [hempty]
    decide

/-! ## Cells -/

theorem length_fill {w : Nat} {s : String} (h : s.length ≤ w) : (fill w s).length = w := by
  rw [fill, List.length_append, List.length_replicate, String.length_toList]
  omega

/-- The columns in front take their widths and two spaces each. -/
theorem drop_cells (hrow : row ∈ t.headers :: t.rows) (j left : Nat) :
    (t.cells row 0 (j + left)).drop (t.offset j) = t.cells row j left := by
  induction j generalizing left with
  | zero => simp [offset]
  | succ j ih =>
    have hlength : (fill (t.width j) (cell row j) ++ [' ', ' ']).length = t.width j + 2 := by
      rw [List.length_append, length_fill (length_cell_le hrow j)]
      rfl
    rw [offset_succ, ← List.drop_drop, show j + 1 + left = j + (left + 1) by omega, ih (left + 1), cells, ← hlength,
      List.drop_left]

/-- What stands from a column on begins with the cell, and with spaces up to the width. -/
theorem exists_take_cells (hrow : row ∈ t.headers :: t.rows) (j left : Nat) :
    ∃ n, (t.cells row j left).take (t.width j) = (cell row j).toList ++ List.replicate n ' ' := by
  have hwidth := length_cell_le hrow j
  cases left with
  | zero =>
    refine ⟨0, ?_⟩
    rw [cells, List.take_of_length_le (String.length_toList.trans_le hwidth)]
    simp
  | succ left =>
    refine ⟨t.width j - (cell row j).length, ?_⟩
    rw [cells, List.append_assoc, List.take_left' (length_fill hwidth), fill]

/-- Behind the last cell that is not empty there is nothing but spaces. -/
theorem exists_cells (h : PlainRow row) (j left : Nat) :
    ∃ p n, Text.EndsPlain p ∧ t.cells row j left = p ++ List.replicate n ' ' := by
  induction left generalizing j with
  | zero => exact ⟨(cell row j).toList, 0, (h.cell j).2, by simp [cells]⟩
  | succ left ih =>
    obtain ⟨p, n, hp, hrest⟩ := ih (j + 1)
    have hcells : t.cells row j (left + 1) =
        (cell row j).toList ++ List.replicate (t.width j - (cell row j).length + 2) ' ' ++
        (p ++ List.replicate n ' ') := by
      rw [cells, hrest, fill, List.replicate_add]
      simp
    by_cases hempty : p = []
    · refine ⟨(cell row j).toList, t.width j - (cell row j).length + 2 + n, (h.cell j).2, ?_⟩
      rw [hcells, hempty, List.nil_append, List.append_assoc, List.replicate_append_replicate]
    · rw [hcells, ← List.append_assoc]
      exact ⟨_, n, Text.endsPlain_append hp hempty, rfl⟩

theorem readCell_append_replicate (t : Table) (j : Nat) (line : List Char) (n : Nat) :
    t.readCell j (line ++ List.replicate n ' ') = t.readCell j line := by
  unfold readCell
  rw [List.drop_append, List.take_append, List.drop_replicate, List.take_replicate, Text.stripSpaces_append_replicate]

theorem readCell_cells (hrow : row ∈ t.headers :: t.rows) (h : PlainRow row) (j left : Nat) :
    t.readCell j (t.cells row 0 (j + left)) = (cell row j).toList := by
  obtain ⟨n, hcell⟩ := exists_take_cells hrow j left
  rw [readCell, drop_cells hrow, hcell, Text.stripSpaces_append_replicate, Text.stripSpaces_of_endsPlain (h.cell j).2]

theorem mem_cells {c : Char} {j left : Nat} (h : c ∈ t.cells row j left) : c = ' ' ∨ ∃ i, c ∈ (cell row i).toList := by
  induction left generalizing j with
  | zero => exact .inr ⟨j, h⟩
  | succ left ih =>
    rw [cells, fill] at h
    simp only [List.mem_append, List.mem_replicate, List.mem_cons, List.not_mem_nil, or_false] at h
    rcases h with ((h | ⟨-, h⟩) | h | h) | h
    · exact .inr ⟨j, h⟩
    · exact .inl h
    · exact .inl h
    · exact .inl h
    · exact ih h

/-! ## Lines -/

theorem exists_line (h : PlainRow row) (n : Nat) (hn : t.headers.length = n + 1) :
    ∃ m, t.cells row 0 n = t.line row ++ List.replicate m ' ' := by
  obtain ⟨p, m, hp, hcells⟩ := exists_cells (t := t) h 0 n
  have hline : t.line row = p := by
    rw [line, hn]
    simp only
    rw [hcells, Text.trimEnd_append_replicate hp]
  exact ⟨m, hline ▸ hcells⟩

theorem readCell_line (hrow : row ∈ t.headers :: t.rows) (h : PlainRow row) {j : Nat} (hj : j < t.headers.length) :
    t.readCell j (t.line row) = (cell row j).toList := by
  obtain ⟨left, hleft⟩ : ∃ left, t.headers.length = j + left + 1 := ⟨t.headers.length - j - 1, by omega⟩
  obtain ⟨m, hcells⟩ := exists_line h _ hleft
  rw [← readCell_cells hrow h j left, hcells, readCell_append_replicate]

theorem endsPlain_line (t : Table) (row : List String) : Text.EndsPlain (t.line row) := by
  unfold line
  split
  · decide
  · exact Text.endsPlain_trimEnd _

theorem not_mem_line (h : PlainRow row) : '\n' ∉ t.line row := by
  unfold line
  split
  · simp
  · intro hmem
    obtain ⟨b, hcells, -⟩ := Text.exists_trimEnd (t.cells row 0 _)
    have hmem := List.mem_append_left b hmem
    rw [← hcells] at hmem
    rcases mem_cells hmem with hspace | ⟨j, hj⟩
    · exact absurd hspace (by decide)
    · exact (h.cell j).1 hj

theorem split_render (h : ∀ row ∈ t.headers :: t.rows, PlainRow row) :
    Text.split '\n' t.render.toList = (t.headers :: t.rows).map t.line ++ [[]] := by
  rw [render, String.toList_ofList, lines, Text.split_flatMap]
  rw [List.forall_mem_map]
  exact fun row hrow => not_mem_line (h row hrow)

/-! ## Cells beyond the headers -/

/-- The rows without the cells that no header stands above. -/
def cut (t : Table) : Table := { t with rows := t.rows.map (·.take t.headers.length) }

theorem cell_take {n j : Nat} (hj : j < n) : cell (row.take n) j = cell row j := by
  rw [cell, cell, List.getElem?_take_of_lt hj]

theorem width_cut {j : Nat} (hj : j < t.headers.length) : t.cut.width j = t.width j := by
  simp [width, cut, cell_take hj, Function.comp_def]

theorem cells_congr {t' : Table} {row' : List String} {j left : Nat} (hwidth : ∀ i < j + left, t.width i = t'.width i)
    (hcell : ∀ i ≤ j + left, cell row i = cell row' i) : t.cells row j left = t'.cells row' j left := by
  induction left generalizing j with
  | zero => simp [cells, hcell]
  | succ left ih =>
    have hrest : t.cells row (j + 1) left = t'.cells row' (j + 1) left := by
      apply ih
      · intro i hi
        exact hwidth i (by omega)
      · intro i hi
        exact hcell i (by omega)
    rw [cells, cells, hwidth j (by omega), hcell j (by omega), hrest]

theorem line_cut {row' : List String} (h : ∀ j < t.headers.length, cell row' j = cell row j) :
    t.cut.line row' = t.line row := by
  unfold line
  rw [show t.cut.headers = t.headers from rfl]
  split
  · rfl
  · rename_i n hn
    congr 1
    apply cells_congr
    · intro i hi
      exact width_cut (by omega)
    · intro i hi
      exact h i (by omega)

theorem render_cut (t : Table) : t.cut.render = t.render := by
  have hlines : t.cut.lines = t.lines := by
    rw [lines, lines, List.map_cons, List.map_cons, line_cut fun _ _ => rfl]
    congr 1
    rw [cut, List.map_map]
    apply List.map_congr_left
    intro row hrow
    exact line_cut fun j hj => cell_take hj
  rw [render, render, hlines]

/-- A legible table is read back from what is printed: a line for each row, with its cells where the widths put them,
and cells that no header stands above leave no trace. -/
theorem render_readable (t : Table) (h : t.Legible) :
    (∃ lines, Text.split '\n' t.render.toList = lines ++ [[]] ∧
      List.Forall₂ (fun row line => Text.EndsPlain line ∧
        ∀ j < t.headers.length, ∀ n, t.readCell j (line ++ List.replicate n ' ') = (cell row j).toList)
        (t.headers :: t.rows) lines) ∧
    (∀ j, IsGreatest {n | ∃ row ∈ t.headers :: t.rows, (cell row j).length = n} (t.width j) ∧ t.width j < 2 ^ 16) ∧
    t.cut.render = t.render := by
  refine ⟨⟨(t.headers :: t.rows).map t.line, split_render h.plain, ?_⟩, fun j => ⟨t.isGreatest_width j, h.width_lt j⟩,
    t.render_cut⟩
  rw [List.forall₂_map_right_iff, List.forall₂_same]
  intro row hrow
  refine ⟨t.endsPlain_line row, fun j hj n => ?_⟩
  rw [readCell_append_replicate, readCell_line hrow (h.plain row hrow) hj]

/-- A row with too few cells and one with too many. -/
def unevenTable : Table := ⟨["ID", "NAME"], [["a-long-id", "x"], ["b"], ["c", "y", "z"]]⟩

theorem render_readable_uneven : unevenTable.Legible ∧
    (∃ lines, Text.split '\n' unevenTable.render.toList = lines ++ [[]] ∧ List.Forall₂ (fun row line =>
      Text.EndsPlain line ∧ ∀ j < 2, unevenTable.readCell j line = (cell row j).toList)
      [["ID", "NAME"], ["a-long-id", "x"], ["b"], ["c", "y", "z"]] lines) ∧
    unevenTable.render = "ID         NAME\na-long-id  x\nb\nc          y\n" := by
  have hlegible : unevenTable.Legible := ⟨by decide +kernel, by decide +kernel⟩
  obtain ⟨⟨lines, hlines, hcells⟩, -⟩ := render_readable unevenTable hlegible
  refine ⟨hlegible, ⟨lines, hlines, hcells.imp ?_⟩, by decide +kernel⟩
  rintro row line ⟨hplain, hread⟩
  refine ⟨hplain, fun j hj => ?_⟩
  have hcell := hread j hj 0
  rwa [List.replicate_zero, List.append_nil] at hcell

end Table

end MultiCluster
