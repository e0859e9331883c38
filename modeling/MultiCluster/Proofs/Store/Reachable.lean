/-
The stores that can come about: from an empty one, by setting up records, scripts, links and a page
size, and by answering calls, in any order. On all of them every record lies under its own ID
(`Reachable.keyed`).
-/
import MultiCluster.Proofs.Store.Matching
namespace MultiCluster.Store

/-- The stores that setting up and answering calls lead to. -/
inductive Reachable : Store → Prop
  | empty : Reachable {}
  | paged {s : Store} (size : Nat) : Reachable s → Reachable { s with pageSize := some size }
  | inserted {s : Store} (kind : Kind) (r : kind.Record) : Reachable s → Reachable (s.insert kind r)
  | scripted {s : Store} (kind : Kind) (id : String) (responses : List kind.Record) :
      Reachable s → Reachable (s.script kind id responses)
  | linked {s : Store} (url : String) (body : Json) : Reachable s → Reachable (s.insertLink url body)
  | answered {s : Store} (c : Call) : Reachable s → Reachable ((Client.answer c).run s).2

variable {s t : Store}

theorem Keyed.congr (hk : s.Keyed) (h : t.records = s.records) : t.Keyed := fun kind id r hr =>
  hk kind id r (by rwa [get?_congr (congrArg (·.get kind) h)] at hr)

theorem get?_insert (kind kind' : Kind) (r : kind.Record) (id : String) (s : Store) :
    (s.insert kind r).get? kind' id =
      if h : kind = kind' then if kind.id r = id then some (h ▸ r) else s.get? kind' id else s.get? kind' id := by
  unfold get? insert
  split
  · rename_i h
    subst h
    rw [ByKind.get_set_self, Dict.get?_insert]
  · rename_i h
    rw [ByKind.get_set_of_ne _ _ (Ne.symm h)]

theorem Keyed.insert (hk : s.Keyed) (kind : Kind) (r : kind.Record) : (s.insert kind r).Keyed := by
  intro kind' id r' h
  rw [get?_insert] at h
  split at h
  · rename_i he
    subst he
    split at h
    · rename_i hid
      cases h
      exact hid
    · exact hk kind id r' h
  · exact hk kind' id r' h

theorem Keyed.erase (hk : s.Keyed) (kind : Kind) (id : String) :
    ({ s with records := s.records.set kind ((s.records.get kind).erase id) } : Store).Keyed := by
  intro kind' id' r h
  refine hk kind' id' r ?_
  by_cases he : kind' = kind
  · subst he
    simp only [get?, ByKind.get_set_self, Dict.get?_erase] at h
    split at h
    · cases h
    · exact h
  · simpa only [get?, ByKind.get_set_of_ne _ _ he] using h

theorem Keyed.answered (hk : s.Keyed) (c : Call) : ((Client.answer c).run s).2.Keyed := by
  have hread : c.IsRead → ((Client.answer c).run s).2.Keyed := fun h => hk.congr (kept_answer h s).records
  cases c with
  | list | next | byId | link | sleep => exact hread trivial
  | create kind r =>
    show (s.create kind r).2.Keyed
    unfold create
    dsimp only
    split
    · exact Keyed.insert (s := { s.record (.created kind r) with idCount := s.idCount + 1 }) hk kind _
    · exact Keyed.insert (s := s.record (.created kind r)) hk kind r
  | update kind r =>
    show (s.update kind r).2.Keyed
    unfold update
    split
    · exact hk
    · exact hk.insert kind r
  | delete kind r =>
    show (s.delete kind r).2.Keyed
    unfold delete
    split
    · exact hk
    · exact hk.erase kind _
  | action kind r name input => exact hk

theorem Reachable.keyed (h : s.Reachable) : s.Keyed := by
  induction h with
  | empty => intro kind id r h; cases kind <;> cases h
  | paged | scripted | linked => assumption
  | inserted kind r _ ih => exact ih.insert kind r
  | answered c _ ih => exact ih.answered c

/-! ## Stores set up from records -/

def insertAll (kind : Kind) (rs : List kind.Record) (s : Store) : Store := rs.foldl (fun s r => s.insert kind r) s

/-- A store of clusters and projects. -/
def ofRecords (clusters : List Cluster) (projects : List Project) : Store :=
  insertAll .project projects (insertAll .cluster clusters {})

/-- One cluster with one project in it. -/
def prodWeb : Store := ofRecords [⟨"c-1", "prod"⟩] [⟨"c-1:p-1", "web", "c-1"⟩]

section Setup

variable {kind : Kind} {rs : List kind.Record} {clusters : List Cluster} {projects : List Project}

theorem get?_insertAll {r : kind.Record} {id : String} (h : (insertAll kind rs s).get? kind id = some r) :
    r ∈ rs ∨ s.get? kind id = some r := by
  induction rs generalizing s with
  | nil => exact .inr h
  | cons r' rs ih =>
    rcases ih h with hm | hg
    · exact .inl (List.mem_cons_of_mem _ hm)
    · rw [get?_insert, dif_pos rfl] at hg
      split at hg
      · cases hg
        exact .inl (List.mem_cons_self ..)
      · exact .inr hg

theorem mem_insertAll {id : String} (h : (∃ r ∈ rs, kind.id r = id) ∨ ∃ r, s.get? kind id = some r) :
    ∃ r, (insertAll kind rs s).get? kind id = some r := by
  induction rs generalizing s with
  | nil => exact h.resolve_left (by simp)
  | cons r' rs ih =>
    refine ih ?_
    rw [get?_insert, dif_pos rfl]
    rcases h with ⟨r, hr, hid⟩ | h
    · rcases List.mem_cons.1 hr with rfl | hr
      · exact .inr ⟨r, if_pos hid⟩
      · exact .inl ⟨r, hr, hid⟩
    · split
      · exact .inr ⟨_, rfl⟩
      · exact .inr h

theorem get?_insertAll_of_ne {kind' : Kind} (h : kind' ≠ kind) (id : String) :
    (insertAll kind rs s).get? kind' id = s.get? kind' id := by
  induction rs generalizing s with
  | nil => rfl
  | cons r rs ih => exact ih.trans (by rw [get?_insert, dif_neg (Ne.symm h)])

theorem scriptOf_insertAll (kind' : Kind) (id : String) :
    (insertAll kind rs s).scriptOf kind' id = s.scriptOf kind' id := by
  induction rs generalizing s with
  | nil => rfl
  | cons r rs ih => exact ih

theorem reachable_insertAll (h : s.Reachable) : (insertAll kind rs s).Reachable := by
  induction rs generalizing s with
  | nil => exact h
  | cons r rs ih => exact ih (h.inserted kind r)

theorem reachable_ofRecords : (ofRecords clusters projects).Reachable :=
  reachable_insertAll (reachable_insertAll .empty)

theorem unscripted_ofRecords (kind : Kind) : (ofRecords clusters projects).Unscripted kind := fun id => by
  rw [ofRecords, scriptOf_insertAll, scriptOf_insertAll]
  cases kind <;> rfl

theorem forall_cluster_ofRecords {P : Cluster → Prop} (h : ∀ c ∈ clusters, P c) :
    ∀ id c, (ofRecords clusters projects).get? .cluster id = some c → P c := fun id c hg => by
  rw [ofRecords, get?_insertAll_of_ne (by decide)] at hg
  rcases get?_insertAll hg with hm | hg
  · exact h c hm
  · cases hg

theorem forall_project_ofRecords {P : Project → Prop} (h : ∀ p ∈ projects, P p) :
    ∀ id p, (ofRecords clusters projects).get? .project id = some p → P p := fun id p hg => by
  rcases get?_insertAll hg with hm | hg
  · exact h p hm
  · rw [get?_insertAll_of_ne (by decide)] at hg
    cases hg

theorem exists_cluster_ofRecords {c : Cluster} (h : c ∈ clusters) :
    ∃ id' c', (ofRecords clusters projects).get? .cluster id' = some c' ∧ c'.id = c.id := by
  obtain ⟨c', hc'⟩ : ∃ c', (insertAll .cluster clusters {}).get? .cluster c.id = some c' :=
    mem_insertAll (.inl ⟨c, h, rfl⟩)
  have hg : (ofRecords clusters projects).get? .cluster c.id = some c' := by
    rw [ofRecords, get?_insertAll_of_ne (by decide)]
    exact hc'
  exact ⟨c.id, c', hg, reachable_ofRecords.keyed .cluster c.id c' hg⟩

end Setup

end MultiCluster.Store
