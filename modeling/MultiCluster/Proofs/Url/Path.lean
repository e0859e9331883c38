/-
Places under a path. A text without the marks that divide a URL, which is no dot segment either, is one segment of a
path (`IsSegment`) and stays one when the path is read: the place that such segments name lies under the place that
stands before them, whatever that is (`readPath_under`).
-/
import MultiCluster.Proofs.Url.Percent
import MultiCluster.Url.Address
namespace MultiCluster.Url

/-! ## Segments -/

/-- The characters that divide a URL or that are taken out of one, and the percent sign. -/
def marks : List Char := ['/', '\\', '?', '#', '%', '\t', '\n', '\r']

/-- One segment of a path: it has no marks and does not end in a blank or a control, and it is no dot segment. -/
structure IsSegment (s : List Char) : Prop where
  plain : ∀ c ∈ s, c ∉ marks
  ends : s.getLast?.any (' ' < ·) = true
  not_here : s ≠ ['.']
  not_above : s ≠ ['.', '.']

instance (s : List Char) : Decidable (IsSegment s) :=
  decidable_of_iff (s.all (· ∉ marks) = true ∧ s.getLast?.any (' ' < ·) = true ∧ s ≠ ['.'] ∧ s ≠ ['.', '.'])
    ⟨fun ⟨h₁, h₂, h₃, h₄⟩ => ⟨fun c hc => of_decide_eq_true (List.all_eq_true.1 h₁ c hc), h₂, h₃, h₄⟩,
      fun ⟨h₁, h₂, h₃, h₄⟩ => ⟨List.all_eq_true.2 fun c hc => decide_eq_true (h₁ c hc), h₂, h₃, h₄⟩⟩

theorem IsSegment.not_mem {s : List Char} (h : IsSegment s) {c : Char} (hc : c ∈ marks) : c ∉ s :=
  fun hs => h.plain c hs hc

theorem IsSegment.ne_nil {s : List Char} (h : IsSegment s) : s ≠ [] := by
  rintro rfl
  exact absurd h.ends nofun

/-! ## Dots -/

/-- The ways to write a dot. -/
def dots : List (List Char) := [['.'], "%2e".toList, "%2E".toList]

theorem eq_nil_of_plainDots {s : List Char} (h : plainDots s = []) : s = [] := by
  fun_cases plainDots s with
  | case1 _ _ he => simp [plainDots, he] at h
  | case2 _ _ he => simp [plainDots, he] at h
  | case3 _ _ hother => rw [plainDots.eq_2 _ _ hother] at h; cases h
  | case4 => rfl

/-- A dot that is read was written in one of the ways. -/
theorem eq_dot_append {s t : List Char} (h : plainDots s = '.' :: t) :
    ∃ d ∈ dots, ∃ r, s = d ++ r ∧ plainDots r = t := by
  fun_cases plainDots s with
  | case1 c r he =>
    rw [plainDots, if_pos he] at h
    refine ⟨['%', '2', c], ?_, r, rfl, (List.cons.inj h).2⟩
    rcases he with rfl | rfl <;> decide
  | case2 c r he =>
    rw [plainDots, if_neg he] at h
    exact absurd (List.cons.inj h).1 (by decide)
  | case3 c r hother =>
    rw [plainDots.eq_2 _ _ hother] at h
    obtain ⟨rfl, hr⟩ := List.cons.inj h
    exact ⟨['.'], by decide, r, rfl, hr⟩
  | case4 => cases h

/-- Each way to write a dot is decoded to one. -/
theorem percentDecode_dot {d : List Char} (h : d ∈ dots) (r : List Char) :
    percentDecode (bytesOf (d ++ r)) = 0x2E :: percentDecode (bytesOf r) := by
  rw [bytesOf_append]
  simp only [dots, List.mem_cons, List.not_mem_nil, or_false] at h
  rcases h with rfl | rfl | rfl
  · exact percentDecode_cons (by decide) _
  · rfl
  · rfl

/-- What is encoded is no dot segment where the text was none. -/
theorem not_dot_percentText {keep : Char → Bool} (hkeep : ∀ c, keep c = true → isPrintable c = true) {s : List Char}
    (hs : IsSegment s) : isHere (percentText keep s) = false ∧ isAbove (percentText keep s) = false := by
  have hdecode := percentDecode_percentText hkeep (hs.not_mem (by decide))
  constructor
  · refine Bool.eq_false_iff.2 fun h => hs.not_here (bytesOf_injective ?_)
    obtain ⟨d, hd, r, hr, hend⟩ := eq_dot_append (eq_of_beq h)
    rw [← hdecode, hr, eq_nil_of_plainDots hend, percentDecode_dot hd]
    rfl
  · refine Bool.eq_false_iff.2 fun h => hs.not_above (bytesOf_injective ?_)
    obtain ⟨d, hd, r, hr, hnext⟩ := eq_dot_append (eq_of_beq h)
    obtain ⟨d', hd', r', hr', hend⟩ := eq_dot_append hnext
    rw [← hdecode, hr, hr', eq_nil_of_plainDots hend, percentDecode_dot hd, percentDecode_dot hd']
    rfl

/-! ## Places -/

/-- The text that names the place of some segments under another one. -/
def under (l : List (List Char)) : List Char := l.flatMap ('/' :: ·)

@[simp] theorem under_nil : under [] = [] := rfl

theorem under_cons (s : List Char) (l : List (List Char)) : under (s :: l) = '/' :: (s ++ under l) := rfl

theorem under_ne_nil {l : List (List Char)} (hl : l ≠ []) : under l ≠ [] := by
  obtain ⟨s, l, rfl⟩ := List.exists_cons_of_ne_nil hl
  exact List.cons_ne_nil _ _

theorem under_append (l l' : List (List Char)) : under (l ++ l') = under l ++ under l' := List.flatMap_append

/-- The segments that are left of some when others follow, behind those that are there before; the last one first. -/
def walk (above : List (List Char)) : List (List Char) → List (List Char)
  | [] => above
  | s :: r => if isAbove s then walk above.tail r else if isHere s then walk above r else walk (s :: above) r

theorem resolve_cons (above : List (List Char)) (s : List Char) {r : List (List Char)} (hr : r ≠ []) :
    resolve above (s :: r) =
      if isAbove s then resolve above.tail r else if isHere s then resolve above r else resolve (s :: above) r := by
  cases r with
  | nil => exact absurd rfl hr
  | cons t r => rfl

/-- Segments that are no dot segments stay, behind what is left of others. -/
theorem resolve_append {last : List (List Char)} (hlast : last ≠ [])
    (hdots : ∀ s ∈ last, isHere s = false ∧ isAbove s = false) (above l : List (List Char)) :
    resolve above (l ++ last) = (walk above l).reverse ++ last := by
  induction l generalizing above with
  | nil =>
    induction last generalizing above with
    | nil => exact absurd rfl hlast
    | cons s r ih =>
      obtain ⟨⟨hhere, habove⟩, hdots⟩ := List.forall_mem_cons.1 hdots
      cases r with
      | nil => simp [resolve, walk, hhere, habove]
      | cons t r =>
        have hrest := ih (List.cons_ne_nil t r) hdots (s :: above)
        rw [List.nil_append] at hrest ⊢
        rw [resolve, if_neg (by simp [habove]), if_neg (by simp [hhere]), hrest]
        simp [walk]
  | cons s l ih =>
    have hne : l ++ last ≠ [] := List.append_ne_nil_of_right_ne_nil l hlast
    rw [List.cons_append, resolve_cons above s hne, walk]
    split
    · exact ih _
    · split
      · exact ih _
      · exact ih _

theorem segments_append (p s : List Char) : segments true (p ++ '/' :: s) = segments true p ++ segments true s := by
  unfold segments
  rw [if_pos rfl, if_pos rfl, if_pos rfl, List.map_append, List.map_cons, if_neg (by decide)]
  exact Text.split_append_split ..

theorem segments_of_isSegment {s : List Char} (h : IsSegment s) : segments true s = [s] := by
  have hmap : (s.map fun c => if c = '\\' then '/' else c) = s := by
    refine List.map_congr_left (g := id) (fun c hc => if_neg ?_) |>.trans (List.map_id s)
    rintro rfl
    exact h.plain _ hc (by decide)
  unfold segments
  rw [if_pos rfl, hmap, Text.split_of_not_mem (h.not_mem (by decide))]

/-- The segments of a text that names segments are those. -/
theorem segments_under {s : List Char} {l : List (List Char)} (h : ∀ t ∈ s :: l, IsSegment t) :
    segments true (s ++ under l) = s :: l := by
  induction l generalizing s with
  | nil =>
    rw [under_nil, List.append_nil]
    exact segments_of_isSegment (h s (List.mem_cons_self ..))
  | cons t l ih =>
    obtain ⟨hs, hl⟩ := List.forall_mem_cons.1 h
    rw [under_cons, segments_append, segments_of_isSegment hs, ih hl]
    rfl

theorem isPrintable_of_keptInPath {c : Char} (h : keptInPath c = true) : isPrintable c = true :=
  (Bool.and_eq_true_iff.1 (Bool.and_eq_true_iff.1 h).1).1

/-- The place that a path leads to when segments follow behind a slash. -/
def place : List Char → List Char
  | [] => []
  | _ :: p => under (walk [] ((segments true p).map (percentText keptInPath))).reverse

/-- Segments behind a path lie under the place that it leads to. -/
theorem readPath_under {p : List Char} (hp : ∀ c ∈ p.head?, isSlash c = true) {l : List (List Char)} (hl : l ≠ [])
    (hsegments : ∀ s ∈ l, IsSegment s) :
    readPath true (p ++ under l) = place p ++ under (l.map (percentText keptInPath)) := by
  have hdots : ∀ s ∈ l.map (percentText keptInPath), isHere s = false ∧ isAbove s = false := fun t ht => by
    obtain ⟨s, hs, rfl⟩ := List.mem_map.1 ht
    exact not_dot_percentText (fun _ => isPrintable_of_keptInPath) (hsegments s hs)
  have hmap : l.map (percentText keptInPath) ≠ [] := by simpa using hl
  obtain ⟨s, r, rfl⟩ := List.exists_cons_of_ne_nil hl
  cases p with
  | nil =>
    show under (resolve [] ((segments true (s ++ under r)).map (percentText keptInPath))) = _
    rw [segments_under hsegments]
    exact congrArg under (resolve_append hmap hdots [] [])
  | cons c p =>
    have hread : readPath true (c :: p ++ under (s :: r)) =
        under (resolve [] ((segments true (p ++ '/' :: (s ++ under r))).map (percentText keptInPath))) := by
      rcases Bool.or_eq_true_iff.1 (hp c rfl) with hc | hc <;> rw [eq_of_beq hc] <;> rfl
    rw [hread, segments_append, segments_under hsegments, List.map_append, resolve_append hmap hdots, under_append]
    rfl

end MultiCluster.Url
