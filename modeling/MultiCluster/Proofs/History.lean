/-
What is looked back on, in its order. A list is read entry by entry and then sorted (`exists_sorted`): the result is
what was read, put in another order, and entries of which none is to be in front of another stay as they were. Of
revisions the order is that of the instants their timestamps name, and the flag says which of them the text
`current` fits.
-/
import MultiCluster.Proofs.Except
import MultiCluster.Proofs.Time.Timestamp
import MultiCluster.History
import Mathlib
namespace MultiCluster

/-! ## Reading and sorting -/

section Sorted

variable {ε α β : Type} {f : α → Except ε β} (le : β → β → Bool)

/-- Elements that may stand in any order stand in the one they had. -/
theorem filter_mergeSort (trans : ∀ a b c, le a b → le b c → le a c) (total : ∀ a b, le a b || le b a) {q : β → Bool}
    (hq : ∀ a b, q a → q b → le a b) (l : List β) : (l.mergeSort le).filter q = l.filter q := by
  -- in the order it has, the part is a sublist of the sorted list, which has no more elements of that kind
  have hsorted : (l.filter q).Pairwise (le · ·) :=
    List.pairwise_of_forall_mem_list fun a ha b hb => hq a b (List.mem_filter.1 ha).2 (List.mem_filter.1 hb).2
  have hsub : (l.filter q).Sublist (l.mergeSort le) := List.sublist_mergeSort trans total hsorted List.filter_sublist
  have hsub := hsub.filter q
  rw [List.filter_filter] at hsub
  simp only [Bool.and_self] at hsub
  exact (hsub.eq_of_length ((List.mergeSort_perm l le).filter q).length_eq.symm).symm

theorem exists_read {l : List α} {r : List β} (h : l.mapM f = .ok r) :
    ∃ read : List (α × β), read.map Prod.fst = l ∧ read.map Prod.snd = r ∧ ∀ p ∈ read, f p.1 = .ok p.2 := by
  induction l generalizing r with
  | nil =>
    cases h
    exact ⟨[], rfl, rfl, by simp⟩
  | cons x l ih =>
    obtain ⟨y, ys, hy, hys, rfl⟩ := mapM_cons_eq_ok h
    obtain ⟨read, rfl, rfl, hread⟩ := ih hys
    exact ⟨(x, y) :: read, rfl, rfl, List.forall_mem_cons.2 ⟨hy, hread⟩⟩

/-- The elements are sorted by what is read off them. Those that may stand in any order keep theirs. -/
theorem exists_sorted (trans : ∀ a b c, le a b → le b c → le a c) (total : ∀ a b, le a b || le b a) {l : List α}
    {r : List β} (h : l.mapM f = .ok r) :
    ∃ shown : List (α × β), shown.map Prod.snd = r.mergeSort le ∧ (shown.map Prod.fst).Perm l ∧
      (∀ p ∈ shown, f p.1 = .ok p.2) ∧ shown.Pairwise (fun p p' => le p.2 p'.2) ∧
      ∀ q : β → Bool, (∀ a b, q a → q b → le a b) →
        (shown.filter fun p => q p.2).map Prod.fst = l.filter fun x => (f x).toOption.any q := by
  -- the pairs are sorted instead of what was read
  obtain ⟨read, rfl, rfl, hread⟩ := exists_read h
  have trans' (p p' p'' : α × β) : le p.2 p'.2 → le p'.2 p''.2 → le p.2 p''.2 := trans p.2 p'.2 p''.2
  have total' (p p' : α × β) : le p.2 p'.2 || le p'.2 p.2 := total p.2 p'.2
  have hperm := List.mergeSort_perm read fun p p' => le p.2 p'.2
  refine ⟨read.mergeSort fun p p' => le p.2 p'.2, List.map_mergeSort (by simp), hperm.map _, ?_, ?_, ?_⟩
  · intro p hp
    exact hread p (hperm.mem_iff.1 hp)
  · exact List.pairwise_mergeSort trans' total' read
  · intro q hq
    rw [filter_mergeSort _ trans' total' fun p p' => hq p.2 p'.2, List.filter_map]
    congr 1
    apply List.filter_congr
    intro p hp
    simp [hread p hp, Except.toOption]

end Sorted

/-! ## The order of instants -/

namespace Instant

/-- Earlier, or at the same time. -/
def NotAfter (a b : Instant) : Prop := a.seconds < b.seconds ∨ a.seconds = b.seconds ∧ a.nanos ≤ b.nanos

theorem le_iff {a b : Instant} : a.le b = true ↔ NotAfter a b := by
  unfold le order NotAfter compareLex compareOn
  rcases lt_trichotomy a.seconds b.seconds with h | h | h
  · simp [compare_lt_iff_lt.2 h, h]
  · simp [h, compare_gt_iff_gt]
  · simp [compare_gt_iff_gt.2 h]
    omega

theorem le_trans (a b c : Instant) : a.le b → b.le c → a.le c := by
  simp only [le_iff, NotAfter]
  omega

theorem le_total (a b : Instant) : a.le b || b.le a := by
  simp only [Bool.or_eq_true, le_iff, NotAfter]
  omega

theorem le_self (a : Instant) : a.le a := by
  simp [le_iff, NotAfter]

end Instant

/-! ## Revisions -/

/-- The entry shows the revision: its name, the instant its timestamp names, and whether a text that is not empty
is its ID or its name. -/
structure RevisionEntry.Shows (current : String) (r : Revision) (e : RevisionEntry) : Prop where
  name : e.name = r.name
  created : Timestamp.Names r.created e.created
  current : e.current = true ↔ current ≠ "" ∧ (r.id = current ∨ r.name = current)

theorem Revision.isCurrent_iff {current : String} {r : Revision} :
    r.isCurrent current = true ↔ current ≠ "" ∧ (r.id = current ∨ r.name = current) := by
  simp [Revision.isCurrent, or_comm]

theorem readCreated_eq_ok {text : String} {t : Instant} : readCreated text = .ok t ↔ Timestamp.Names text t := by
  rw [readCreated, mapError_eq_ok, Timestamp.read_eq_ok_iff]

theorem readCreated_eq_error {text : String} {e : Fault} :
    readCreated text = .error e ↔ ∃ cause, Instant.read text = .error cause ∧ e = .invalidTimestamp text cause :=
  mapError_eq_error

namespace RevisionEntry

variable {current : String} {r : Revision} {e : RevisionEntry}

theorem ofRevision_eq_ok (h : ofRevision current r = .ok e) : Shows current r e := by
  obtain ⟨t, ht, ⟨⟩⟩ := bind_eq_ok h
  exact ⟨rfl, readCreated_eq_ok.1 ht, Revision.isCurrent_iff⟩

theorem ofRevision_of_names {t : Instant} (h : Timestamp.Names r.created t) :
    ofRevision current r = .ok ⟨r.name, t, r.isCurrent current⟩ := by
  rw [ofRevision, readCreated_eq_ok.2 h]
  rfl

theorem exists_ofRevision_eq_ok : (∃ e, ofRevision current r = .ok e) ↔ Timestamp.IsTimestamp r.created := by
  constructor
  · rintro ⟨e, h⟩
    exact ⟨_, (ofRevision_eq_ok h).created⟩
  · rintro ⟨t, ht⟩
    exact ⟨_, ofRevision_of_names ht⟩

theorem ofRevision_eq_error {fault : Fault} : ofRevision current r = .error fault ↔
    ∃ cause, Instant.read r.created = .error cause ∧ fault = .invalidTimestamp r.created cause := by
  rw [ofRevision, bind_return_eq_error, readCreated_eq_error]

end RevisionEntry

variable {revisions : List Revision} {current : String}

theorem sortRevisions_eq_error {fault : Fault} : sortRevisions revisions current = .error fault ↔
    First (fun r => Timestamp.IsTimestamp r.created)
      (fun r => ∃ cause, Instant.read r.created = .error cause ∧
        fault = .invalidTimestamp r.created cause) revisions := by
  have hmapM := mapM_eq_error (f := RevisionEntry.ofRevision current) (l := revisions) (e := fault)
  simp only [RevisionEntry.exists_ofRevision_eq_ok, RevisionEntry.ofRevision_eq_error] at hmapM
  rw [← hmapM, sortRevisions, bind_return_eq_error]

theorem exists_sortRevisions_eq_ok :
    (∃ entries, sortRevisions revisions current = .ok entries) ↔ ∀ r ∈ revisions, Timestamp.IsTimestamp r.created := by
  have hread (r : Revision) : Timestamp.IsTimestamp r.created ↔ ∃ e, RevisionEntry.ofRevision current r = .ok e :=
    RevisionEntry.exists_ofRevision_eq_ok.symm
  simp only [hread]
  rw [← exists_mapM_eq_ok, sortRevisions, exists_bind_return_eq_ok]

/-- Each entry stands beside the revision that it shows. -/
theorem sortRevisions_sorted {entries : List RevisionEntry} (h : sortRevisions revisions current = .ok entries) :
    ∃ shown : List (Revision × RevisionEntry), shown.map Prod.snd = entries ∧ (shown.map Prod.fst).Perm revisions ∧
      (∀ p ∈ shown, p.2.Shows current p.1) ∧ shown.Pairwise (fun p p' => p.2.created.NotAfter p'.2.created) ∧
      ∀ t, (shown.filter fun p => p.2.created = t).map Prod.fst = revisions.filter fun r =>
        Timestamp.Names r.created t := by
  obtain ⟨read, hread, ⟨⟩⟩ := bind_eq_ok h
  obtain ⟨shown, hshown, hperm, hof, hsorted, hties⟩ :=
    exists_sorted (fun a b : RevisionEntry => a.created.le b.created)
      (fun a b c => Instant.le_trans a.created b.created c.created)
      (fun a b => Instant.le_total a.created b.created) hread
  refine ⟨shown, hshown, hperm, ?_, ?_, ?_⟩
  · intro p hp
    exact RevisionEntry.ofRevision_eq_ok (hof p hp)
  · exact hsorted.imp Instant.le_iff.1
  · intro t
    refine (hties (fun e => e.created = t) ?_).trans (List.filter_congr ?_)
    · intro a b ha hb
      simp_all [Instant.le_self]
    · intro r hr
      obtain ⟨e, he⟩ := exists_mapM_eq_ok.1 ⟨read, hread⟩ r hr
      have hnames := RevisionEntry.ofRevision_eq_ok he
      simp [he, Except.toOption, hnames.created.unique]

/-- Revisions are sorted if all of them have timestamps, and the first one without is the fault. They are all shown,
none before an earlier one, those of one instant in the order they had, and flagged where the text fits. -/
theorem sortRevisions_oldest_first (revisions : List Revision) (current : String) :
    ((∃ entries, sortRevisions revisions current = .ok entries) ↔ ∀ r ∈ revisions, Timestamp.IsTimestamp r.created) ∧
    (∀ fault, sortRevisions revisions current = .error fault ↔
      First (fun r => Timestamp.IsTimestamp r.created)
        (fun r => ∃ cause, Instant.read r.created = .error cause ∧
          fault = .invalidTimestamp r.created cause) revisions) ∧
    ∀ entries, sortRevisions revisions current = .ok entries →
      ∃ shown : List (Revision × RevisionEntry), shown.map Prod.snd = entries ∧ (shown.map Prod.fst).Perm revisions ∧
        (∀ p ∈ shown, p.2.Shows current p.1) ∧ shown.Pairwise (fun p p' => p.2.created.NotAfter p'.2.created) ∧
        ∀ t, (shown.filter fun p => p.2.created = t).map Prod.fst = revisions.filter fun r =>
          Timestamp.Names r.created t :=
  ⟨exists_sortRevisions_eq_ok, fun _ => sortRevisions_eq_error, fun _ => sortRevisions_sorted⟩

/-- Three revisions, of which the first two are of one instant and the last one is the earliest. -/
def threeRevisions : List Revision :=
  [{ id := "r-2", name := "second", created := "2024-01-01T01:00:00+01:00" },
    { id := "r-3", name := "third", created := "2024-01-01T00:00:00Z" },
    { id := "r-1", name := "first", created := "2024-01-01T00:30:00+01:00" }]

theorem sortRevisions_oldest_first_three :
    (∃ entries, ∃ shown : List (Revision × RevisionEntry), sortRevisions threeRevisions "r-3" = .ok entries ∧
      shown.map Prod.snd = entries ∧ (shown.map Prod.fst).Perm threeRevisions ∧
      shown.Pairwise (fun p p' => p.2.created.NotAfter p'.2.created) ∧
      (shown.filter fun p => p.2.created = ⟨1704067200, 0⟩).map Prod.fst = threeRevisions.take 2) ∧
    sortRevisions ({ created := "yesterday" } :: threeRevisions) "r-3" =
      .error (.invalidTimestamp "yesterday" .tooShort) := by
  constructor
  · obtain ⟨hok, -, hsorted⟩ := sortRevisions_oldest_first threeRevisions "r-3"
    obtain ⟨entries, hentries⟩ := hok.2 (by decide +kernel)
    obtain ⟨shown, hshown, hperm, -, horder, hties⟩ := hsorted entries hentries
    exact ⟨entries, shown, hentries, hshown, hperm, horder, (hties _).trans (by decide +kernel)⟩
  · obtain ⟨-, herror, -⟩ := sortRevisions_oldest_first ({ created := "yesterday" } :: threeRevisions) "r-3"
    exact (herror _).2 (first_cons.2 (.inl ⟨.tooShort, by decide +kernel, rfl⟩))

/-! ## The revision that the app runs -/

theorem countP_unique {α β : Type} [DecidableEq β] {l : List α} {g : α → β} (h : (l.map g).Nodup) (b : β)
    (p : α → Prop) [DecidablePred p] :
    l.countP (fun x => g x = b ∧ p x) = if ∃ x ∈ l, g x = b ∧ p x then 1 else 0 := by
  have hle : l.countP (fun x => g x = b ∧ p x) ≤ 1 := calc
    l.countP (fun x => g x = b ∧ p x) ≤ l.countP (fun x => g x = b) := by
      apply List.countP_mono_left
      simp +contextual
    _ = (l.map g).count b := by simp [List.count, List.countP_map, Function.comp_def, beq_eq_decide]
    _ ≤ 1 := List.nodup_iff_count_le_one.1 h b
  have hpos := List.countP_pos_iff (p := fun x => decide (g x = b ∧ p x)) (l := l)
  simp only [decide_eq_true_eq] at hpos
  split <;> grind

theorem countP_sortRevisions {entries : List RevisionEntry} (h : sortRevisions revisions current = .ok entries) :
    entries.countP (·.current) = revisions.countP (·.isCurrent current) := by
  obtain ⟨shown, rfl, hperm, hshows, -⟩ := sortRevisions_sorted h
  rw [← hperm.countP_eq, List.countP_map, List.countP_map]
  apply List.countP_congr
  intro p hp
  exact (hshows p hp).current.trans Revision.isCurrent_iff.symm

theorem countP_isCurrent (hids : (revisions.map (·.id)).Nodup) (hnames : (revisions.map (·.name)).Nodup)
    (h : current ≠ "") :
    revisions.countP (·.isCurrent current) = (if ∃ r ∈ revisions, r.id = current then 1 else 0) +
      (if ∃ r ∈ revisions, r.name = current ∧ r.id ≠ current then 1 else 0) := by
  -- first those with the ID, then among the others those with the name
  rw [List.countP_eq_countP_filter_add _ _ fun r => r.id = current, List.countP_filter, List.countP_filter]
  have hid := countP_unique hids current fun _ => True
  have hname := countP_unique hnames current fun r => r.id ≠ current
  simp only [and_true] at hid
  rw [← hid, ← hname]
  congr 1
  · apply List.countP_congr
    simp +contextual [Revision.isCurrent, h]
  · apply List.countP_congr
    simp +contextual [Revision.isCurrent, h]

/-- No more than two entries are flagged: the one with the ID, and another one whose name is that ID. -/
theorem sortRevisions_flagged (revisions : List Revision) (current : String) (hids : (revisions.map (·.id)).Nodup)
    (hnames : (revisions.map (·.name)).Nodup) (hcreated : ∀ r ∈ revisions, Timestamp.IsTimestamp r.created) :
    ∃ entries, sortRevisions revisions current = .ok entries ∧
      (current = "" → entries.countP (·.current) = 0) ∧
      (current ≠ "" → entries.countP (·.current) = (if ∃ r ∈ revisions, r.id = current then 1 else 0) +
        (if ∃ r ∈ revisions, r.name = current ∧ r.id ≠ current then 1 else 0)) ∧
      ((∀ r ∈ revisions, ∀ r' ∈ revisions, r.id = current → r'.name = current → r' = r) →
        entries.countP (·.current) ≤ 1 ∧
        (current ≠ "" → (∃ r ∈ revisions, r.id = current) → entries.countP (·.current) = 1)) := by
  obtain ⟨entries, hentries⟩ : ∃ entries, sortRevisions revisions current = .ok entries :=
    exists_sortRevisions_eq_ok.2 hcreated
  have hempty (h : current = "") : entries.countP (·.current) = 0 := by
    simp [countP_sortRevisions hentries, h, Revision.isCurrent]
  have hcount (h : current ≠ "") := (countP_sortRevisions hentries).trans (countP_isCurrent hids hnames h)
  refine ⟨entries, hentries, hempty, hcount, fun hown => ?_⟩
  by_cases h : current = ""
  · exact ⟨by rw [hempty h]; decide, fun hne => absurd h hne⟩
  · rw [hcount h]
    have hother : (∃ r ∈ revisions, r.id = current) → ¬ ∃ r' ∈ revisions, r'.name = current ∧ r'.id ≠ current := by
      rintro ⟨r, hr, hid⟩ ⟨r', hr', hname, hne⟩
      exact hne ((hown r hr r' hr' hid hname) ▸ hid)
    refine ⟨by split <;> split <;> simp_all, fun _ hid => ?_⟩
    rw [if_pos hid, if_neg (hother hid)]

/-- The first one's name is the second one's ID. -/
def crossedRevisions : List Revision :=
  [{ id := "a", name := "b", created := "2024-01-01T00:00:00Z" },
    { id := "b", name := "c", created := "2024-01-02T00:00:00Z" }]

theorem sortRevisions_flagged_crossed :
    ∃ entries, sortRevisions crossedRevisions "b" = .ok entries ∧ entries.countP (·.current) = 2 ∧
      ∃ entries', sortRevisions crossedRevisions "a" = .ok entries' ∧ entries'.countP (·.current) = 1 := by
  obtain ⟨entries, hentries, -, hcount, -⟩ :=
    sortRevisions_flagged crossedRevisions "b" (by decide) (by decide) (by decide +kernel)
  obtain ⟨entries', hentries', -, -, hown⟩ :=
    sortRevisions_flagged crossedRevisions "a" (by decide) (by decide) (by decide +kernel)
  exact ⟨entries, hentries, hcount (by decide), entries', hentries', (hown (by decide)).2 (by decide) (by decide)⟩

/-- IDs and names are different from each other, and both revisions are flagged. -/
theorem sortRevisions_flags_two :
    (crossedRevisions.map (·.id)).Nodup ∧ (crossedRevisions.map (·.name)).Nodup ∧
      (∀ r ∈ crossedRevisions, Timestamp.IsTimestamp r.created) ∧
      ∃ entries, sortRevisions crossedRevisions "b" = .ok entries ∧ ¬ entries.countP (·.current) ≤ 1 := by
  have hcreated : ∀ r ∈ crossedRevisions, Timestamp.IsTimestamp r.created := by decide +kernel
  obtain ⟨entries, hentries⟩ : ∃ entries, sortRevisions crossedRevisions "b" = .ok entries :=
    exists_sortRevisions_eq_ok.2 hcreated
  refine ⟨by decide, by decide, hcreated, entries, hentries, ?_⟩
  rw [countP_sortRevisions hentries]
  decide

end MultiCluster
