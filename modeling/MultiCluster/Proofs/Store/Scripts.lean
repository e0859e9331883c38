/-
Scripted fetches. Only a fetch of the very ID moves a script on (`scriptOf_answer`), and none moves it
past its last response. So the responses come in their order, one for each fetch, and the last one
again and again, whatever is asked in between (`byId_scripted`).
-/
import MultiCluster.Proofs.Client.Calls
import MultiCluster.Proofs.Store.Reading
namespace MultiCluster

/-- The call fetches this ID. -/
def Call.isFetch (kind : Kind) (id : String) : Call → Bool
  | .byId kind' id' => kind' = kind ∧ id' = id
  | _ => false

namespace Store

variable {s : Store} {kind : Kind} {id : String}

/-- A script after one fetch: the first response is gone unless it is the only one. -/
def nextScript {α : Type} : List α → List α
  | _ :: r :: q => r :: q
  | l => l

theorem scriptOf_script (kind : Kind) (id id' : String) (q : List kind.Record) (s : Store) :
    (s.script kind id q).scriptOf kind id' = if id = id' then q else s.scriptOf kind id' := by
  simp only [scriptOf, script, ByKind.get_set_self, Dict.get?_insert]
  split <;> rfl

/-- What a script that is not empty is read from. -/
theorem get?_scripts {r : kind.Record} {q : List kind.Record} (h : s.scriptOf kind id = r :: q) :
    ((s.countFetch kind id).scripts.get kind).get? id = some (r :: q) := by
  show (s.scripts.get kind).get? id = some (r :: q)
  unfold scriptOf at h
  cases hq : (s.scripts.get kind).get? id with
  | none => rw [hq] at h; cases h
  | some l => rw [hq] at h; exact congrArg some h

/-- The last response stays. -/
theorem byId_of_last {r : kind.Record} (h : s.scriptOf kind id = [r]) :
    s.byId kind id = (.ok r, s.countFetch kind id) := by
  unfold byId
  dsimp only
  rw [get?_scripts h]

/-- A response that others follow is taken out. -/
theorem byId_of_more {r r' : kind.Record} {q : List kind.Record} (h : s.scriptOf kind id = r :: r' :: q) :
    s.byId kind id = (.ok r, (s.countFetch kind id).script kind id (r' :: q)) := by
  unfold byId
  dsimp only
  rw [get?_scripts h]

/-- A fetch gives the first response. -/
theorem byId_of_script {r : kind.Record} {q : List kind.Record} (h : s.scriptOf kind id = r :: q) :
    (s.byId kind id).1 = .ok r := by
  cases q with
  | nil => rw [byId_of_last h]
  | cons r' q => rw [byId_of_more h]

theorem scriptOf_byId (kind' : Kind) (id' : String) :
    (s.byId kind' id').2.scriptOf kind id =
      if kind' = kind ∧ id' = id then nextScript (s.scriptOf kind id) else s.scriptOf kind id := by
  have hcount : (s.countFetch kind' id').scriptOf kind id = s.scriptOf kind id := rfl
  match hl : s.scriptOf kind' id' with
  | [] =>
    rw [byId_of_unscripted hl]
    split
    · rename_i he
      obtain ⟨rfl, rfl⟩ := he
      rw [hl]
      exact hl
    · exact hcount
  | [r] =>
    rw [byId_of_last hl]
    split
    · rename_i he
      obtain ⟨rfl, rfl⟩ := he
      rw [hl]
      exact hl
    · exact hcount
  | r :: r' :: q =>
    rw [byId_of_more hl]
    split
    · rename_i he
      obtain ⟨rfl, rfl⟩ := he
      rw [hl, scriptOf_script, if_pos rfl]
      rfl
    · rename_i hne
      by_cases hkind : kind' = kind
      · subst hkind
        have hid : id' ≠ id := fun hid => hne ⟨rfl, hid⟩
        rw [scriptOf_script, if_neg hid, hcount]
      · exact scriptOf_script_of_ne (Ne.symm hkind) id' id (r' :: q) (s.countFetch kind' id')

/-- One call moves a script on if it is a fetch of the ID, and else leaves it alone. -/
theorem scriptOf_answer (c : Call) :
    ((Client.answer c).run s).2.scriptOf kind id =
      if c.isFetch kind id then nextScript (s.scriptOf kind id) else s.scriptOf kind id := by
  have hpages : ∀ {t : Store}, s.PagesOnly t → t.scriptOf kind id = s.scriptOf kind id := by
    intro t h
    rw [PagesOnly] at h
    rw [h]
    rfl
  cases c with
  | list kind' filters => exact hpages (pagesOnly_list kind' filters s)
  | next kind' page => exact hpages (pagesOnly_next kind' page s)
  | byId kind' id' =>
    show (s.byId kind' id').2.scriptOf kind id = _
    rw [scriptOf_byId]
    simp only [Call.isFetch, decide_eq_true_eq]
  | create kind' r =>
    show (s.create kind' r).2.scriptOf kind id = s.scriptOf kind id
    unfold create
    dsimp only
    split <;> rfl
  | update kind' r =>
    show (s.update kind' r).2.scriptOf kind id = s.scriptOf kind id
    unfold update
    split <;> rfl
  | delete kind' r =>
    show (s.delete kind' r).2.scriptOf kind id = s.scriptOf kind id
    unfold delete
    split <;> rfl
  | action kind' r name input => rfl
  | link url => rfl
  | sleep time => rfl

theorem drop_nextScript {α : Type} (l : List α) (n : Nat) :
    (nextScript l).drop (min n ((nextScript l).length - 1)) = l.drop (min (n + 1) (l.length - 1)) := by
  match l with
  | [] => simp [nextScript]
  | [r] => simp [nextScript]
  | r :: r' :: q =>
    have hmin : min (n + 1) ((r :: r' :: q).length - 1) = min n ((r' :: q).length - 1) + 1 := by
      simp only [List.length_cons]
      omega
    rw [hmin, List.drop_succ_cons]
    rfl

/-- Where a script is after some calls depends on the number of fetches among them. -/
theorem scriptOf_after (s : Store) (kind : Kind) (id : String) (calls : List Call) :
    (Client.after s calls).scriptOf kind id =
      (s.scriptOf kind id).drop (min (calls.countP (Call.isFetch kind id)) ((s.scriptOf kind id).length - 1)) := by
  induction calls generalizing s with
  | nil => simp
  | cons c calls ih =>
    rw [Client.after_cons, ih, scriptOf_answer, List.countP_cons]
    split
    · exact drop_nextScript _ _
    · rfl

/-- The fetch of a scripted ID that comes after `n` others of it gives the response with number `n`, or
the last one if there are not so many. -/
theorem byId_scripted (h : s.scriptOf kind id ≠ []) (calls : List Call) :
    ∃ r, (s.scriptOf kind id)[min (calls.countP (Call.isFetch kind id)) ((s.scriptOf kind id).length - 1)]? = some r ∧
      ((Client.byId kind id).run (Client.after s calls)).1 = .ok r := by
  have hpos : 0 < (s.scriptOf kind id).length := List.length_pos_iff.2 h
  have hlt : min (calls.countP (Call.isFetch kind id)) ((s.scriptOf kind id).length - 1) <
      (s.scriptOf kind id).length := by
    omega
  refine ⟨_, List.getElem?_eq_getElem hlt, ?_⟩
  have hafter := scriptOf_after s kind id calls
  rw [List.drop_eq_getElem_cons hlt] at hafter
  exact byId_of_script hafter

end Store

end MultiCluster
