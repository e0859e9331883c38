/-
Reading from the store. What a call that only reads may leave behind is another set of waiting pages,
other counts of fetches, and scripts that went on (`Kept`, `kept_answer`); so whatever depends on the
records alone comes out alike before and after it. `lookedUp` is such a view: what a name or an ID
stands for among the records (`run_lookup`).
-/
import MultiCluster.Proofs.Store.Listing
namespace MultiCluster

namespace Store

/-- The answers that are scripted for an ID. -/
def scriptOf (kind : Kind) (id : String) (s : Store) : List kind.Record := ((s.scripts.get kind).get? id).getD []

/-- No ID of the kind has a script. -/
def Unscripted (kind : Kind) (s : Store) : Prop := ∀ id, s.scriptOf kind id = []

/-- What reading leaves as it was. -/
structure Kept (s t : Store) : Prop where
  records : t.records = s.records
  links : t.links = s.links
  pageSize : t.pageSize = s.pageSize
  idCount : t.idCount = s.idCount
  log : t.log = s.log
  unscripted : ∀ kind, s.Unscripted kind → t.Unscripted kind

namespace Kept

variable {s t u : Store}

theorem refl (s : Store) : s.Kept s := ⟨rfl, rfl, rfl, rfl, rfl, fun _ h => h⟩

theorem trans (h : s.Kept t) (h' : t.Kept u) : s.Kept u :=
  ⟨h'.records.trans h.records, h'.links.trans h.links, h'.pageSize.trans h.pageSize, h'.idCount.trans h.idCount,
    h'.log.trans h.log, fun kind hk => h'.unscripted kind (h.unscripted kind hk)⟩

instance : IsPreorder Store Kept where
  refl := refl
  trans _ _ _ := trans

end Kept

theorem PagesOnly.kept {s t : Store} (h : s.PagesOnly t) : s.Kept t := by
  rw [PagesOnly] at h
  rw [h]
  exact ⟨rfl, rfl, rfl, rfl, rfl, fun _ h => h⟩

/-! ## Calls that read -/

theorem kept_countFetch (kind : Kind) (id : String) (s : Store) : s.Kept (s.countFetch kind id) :=
  ⟨rfl, rfl, rfl, rfl, rfl, fun _ h => h⟩

theorem scriptOf_script_of_ne {kind kind' : Kind} (h : kind' ≠ kind) (id id' : String) (q : List kind.Record)
    (s : Store) : (s.script kind id q).scriptOf kind' id' = s.scriptOf kind' id' := by
  simp only [scriptOf, script, ByKind.get_set_of_ne _ _ h]

/-- A script that goes on was one before. -/
theorem kept_script {kind : Kind} {id : String} {s : Store} (h : s.scriptOf kind id ≠ []) (q : List kind.Record) :
    s.Kept (s.script kind id q) := by
  refine ⟨rfl, rfl, rfl, rfl, rfl, fun kind' hu id' => ?_⟩
  have hne : kind' ≠ kind := fun he => h (he ▸ hu id)
  rw [scriptOf_script_of_ne hne]
  exact hu id'

theorem kept_byId (kind : Kind) (id : String) (s : Store) : s.Kept (s.byId kind id).2 := by
  have hc := kept_countFetch kind id s
  unfold byId
  dsimp only
  split
  · exact hc
  · rename_i r q _ hq
    have : (s.countFetch kind id).scriptOf kind id ≠ [] := by simp [scriptOf, hq]
    exact hc.trans (kept_script this q)
  · split <;> exact hc

/-- An ID without a script is looked up. -/
theorem byId_of_unscripted {kind : Kind} {id : String} {s : Store} (h : s.scriptOf kind id = []) :
    s.byId kind id = ((s.get? kind id).elim (.error (.notFound kind id)) .ok, s.countFetch kind id) := by
  have hs : ((s.countFetch kind id).scripts.get kind).get? id = none ∨
      ((s.countFetch kind id).scripts.get kind).get? id = some [] := by
    unfold scriptOf at h
    show (s.scripts.get kind).get? id = none ∨ (s.scripts.get kind).get? id = some []
    cases hq : (s.scripts.get kind).get? id with
    | none => exact .inl rfl
    | some q => rw [hq] at h; exact .inr (congrArg some h)
  have hg : (s.countFetch kind id).get? kind id = s.get? kind id := rfl
  unfold byId
  dsimp only
  rcases hs with hs | hs <;> rw [hs] <;> dsimp only <;> rw [hg] <;> cases s.get? kind id <;> rfl

theorem pagesOnly_list (kind : Kind) (filters : Dict String) (s : Store) : s.PagesOnly (s.list kind filters).2 := by
  obtain ⟨p, r, hlist, -⟩ := list_spec kind filters s
  rw [hlist]
  exact (file_spec kind r s).2.1

theorem pagesOnly_next (kind : Kind) (page : Page kind.Record) (s : Store) : s.PagesOnly (s.next kind page).2 := by
  unfold next
  split
  · exact .refl s
  · split
    · exact .refl s
    · dsimp only
      split <;> rfl

theorem kept_answer {c : Call} (h : c.IsRead) (s : Store) : s.Kept ((Client.answer c).run s).2 := by
  cases c with
  | list kind filters => exact (pagesOnly_list kind filters s).kept
  | next kind page => exact (pagesOnly_next kind page s).kept
  | byId kind id => exact kept_byId kind id s
  | link | sleep => exact .refl s
  | create | update | delete | action => exact h.elim

theorem readsKeep : Client.ReadsKeep (σ := Store) id Kept := fun _ h s => kept_answer h s

/-! ## Lookups -/

section Congr

variable {s t : Store} {kind : Kind} (h : t.records.get kind = s.records.get kind)
include h

theorem found_congr (filters : Dict String) : t.found kind filters = s.found kind filters := by rw [found, found, h]

theorem get?_congr (id : String) : t.get? kind id = s.get? kind id := by rw [get?, get?, h]

end Congr

theorem Kept.get?_eq {s t : Store} {kind : Kind} (h : s.Kept t) (id : String) : t.get? kind id = s.get? kind id :=
  get?_congr (congrArg (·.get kind) h.records) id

/-- What a reference stands for among the records: the only record of that name that passes the
filters, or else the one with that ID. -/
def lookedUp (kind : Kind) (reference : String) (filters : Dict String) (s : Store) : Except Fault kind.Record :=
  if reference.isEmpty then .error (.notFound kind reference)
  else match s.found kind (filters.insert "name" reference) with
    | [] => (s.get? kind reference).elim (.error (.notFound kind reference)) .ok
    | [r] => .ok r
    | rs => .error (.ambiguous kind reference (rs.map kind.id))

theorem lookedUp_congr {s t : Store} {kind : Kind} (h : t.records.get kind = s.records.get kind) (reference : String)
    (filters : Dict String) : t.lookedUp kind reference filters = s.lookedUp kind reference filters := by
  rw [lookedUp, lookedUp, found_congr h, get?_congr h]

/-- Where the reference itself has no script, a lookup is decided by the records. -/
theorem run_lookup {kind : Kind} {reference : String} {s : Store} (h : s.scriptOf kind reference = [])
    (filters : Dict String) :
    ∃ t, (Client.lookup kind reference filters).run s = (s.lookedUp kind reference filters, t) ∧ s.Kept t := by
  unfold Client.lookup lookedUp
  split
  · exact ⟨s, rfl, .refl s⟩
  · obtain ⟨t, ht, hst⟩ := run_listAll kind (filters.insert "name" reference) s
    rw [Attempt.run_bind_ok ht]
    match s.found kind (filters.insert "name" reference) with
    | [] =>
      have hb : (Client.byId kind reference).run t =
          ((t.get? kind reference).elim (.error (.notFound kind reference)) .ok, t.countFetch kind reference) :=
        byId_of_unscripted (by rw [hst]; exact h)
      rw [get?_congr (congrArg (·.get kind) hst.kept.records)] at hb
      refine ⟨t.countFetch kind reference, ?_, hst.kept.trans (kept_countFetch kind reference t)⟩
      dsimp only
      rw [Attempt.run_mapError, hb]
      cases s.get? kind reference <;> rfl
    | [r] => exact ⟨t, rfl, hst.kept⟩
    | _ :: _ :: _ => exact ⟨t, rfl, hst.kept⟩

end Store

end MultiCluster
