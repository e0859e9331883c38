/-
What a store holds after any moves. `LastWritten` says of a history, without a store, which record was the
last one written under an ID; the store holds exactly that record (`Traffic.get?_after`).
-/
import MultiCluster.Proofs.Store.Traffic
import MultiCluster.Proofs.Store.Writing
namespace MultiCluster

/-! ## Histories

A history lists moves with the last one first. -/

/-- The store and its listings after a history that began with nothing. -/
def Traffic.after (history : List Move) : Traffic := (Traffic.mk {} []).run history.reverse

@[simp] theorem Traffic.after_cons (m : Move) (history : List Move) :
    Traffic.after (m :: history) = (Traffic.after history).step m := by
  simp [Traffic.after, Traffic.run]

namespace Move

/-- The move creates a record that has no ID. -/
def isNumbered : Move → Bool
  | .called (.create kind r) => (kind.id r).isEmpty
  | _ => false

/-- The ID that the next record without one gets: the numbers run on over all kinds. -/
def nextId (kind : Kind) (history : List Move) : String :=
  kind.collection ++ "-" ++ toString (history.countP isNumbered + 1)

/-- Where the move writes or removes a record, if it is such a move. -/
def place? (history : List Move) : Move → Option (Kind × String)
  | .inserted kind r => some (kind, kind.id r)
  | .called (.create kind r) => some (kind, if (kind.id r).isEmpty then nextId kind history else kind.id r)
  | .called (.update kind r) => some (kind, kind.id r)
  | .called (.delete kind r) => some (kind, kind.id r)
  | _ => none

end Move

/-- The record is the one that was last written under the ID, and it was not removed since. -/
inductive LastWritten (kind : Kind) (id : String) : List Move → kind.Record → Prop
  | inserted {history : List Move} {r : kind.Record} (h : kind.id r = id) :
      LastWritten kind id (.inserted kind r :: history) r
  | created {history : List Move} {r : kind.Record} (h : kind.id r = id) (hid : id ≠ "") :
      LastWritten kind id (.called (.create kind r) :: history) r
  /-- A record that has no ID gets the next one. -/
  | numbered {history : List Move} {r : kind.Record} (h : kind.id r = "") (hid : id = Move.nextId kind history) :
      LastWritten kind id (.called (.create kind r) :: history) (kind.withId r id)
  /-- An update takes the place of a record. -/
  | updated {history : List Move} {r old : kind.Record} (h : kind.id r = id) (hold : LastWritten kind id history old) :
      LastWritten kind id (.called (.update kind r) :: history) r
  | kept {history : List Move} {m : Move} {r : kind.Record} (h : LastWritten kind id history r)
      (hm : m.place? history ≠ some (kind, id)) : LastWritten kind id (m :: history) r

/-! ## One move -/

namespace Traffic

variable {t : Traffic} {kind : Kind} {id : String} {history : List Move}

/-- Other moves than writes and removals leave the records, and give no ID. -/
theorem records_step_of_place? {m : Move} (h : m.place? history = none) :
    (t.step m).store.records = t.store.records ∧ (t.step m).store.idCount = t.store.idCount := by
  have hkept : ∀ {s : Store}, t.store.Kept s → s.records = t.store.records ∧ s.idCount = t.store.idCount :=
    fun hs => ⟨hs.records, hs.idCount⟩
  cases m with
  | start kind filters => exact hkept (Store.pagesOnly_list kind filters t.store).kept
  | advance i =>
    unfold Traffic.step
    dsimp only
    split
    · exact ⟨rfl, rfl⟩
    · rename_i l hl
      rw [(advance_cases l t.store).1]
      exact hkept (Store.pagesOnly_next l.kind l.last t.store).kept
  | paged | scripted | linked => exact ⟨rfl, rfl⟩
  | inserted => cases h
  | called c =>
    cases c with
    | list kind filters => exact hkept (Store.pagesOnly_list kind filters t.store).kept
    | next kind page => exact hkept (Store.pagesOnly_next kind page t.store).kept
    | byId kind id => exact hkept (Store.kept_byId kind id t.store)
    | create | update | delete => cases h
    | action | link | sleep => exact ⟨rfl, rfl⟩
  | lookup kind reference filters => exact hkept (Store.readsKeep.lookup kind reference filters t.store)

theorem idCount_step (m : Move) :
    (t.step m).store.idCount = t.store.idCount + if m.isNumbered then 1 else 0 := by
  by_cases h : m.place? [] = none
  · have hnumbered : m.isNumbered = false := by
      cases m with
      | called c => cases c <;> first | rfl | cases h
      | _ => rfl
    rw [hnumbered, (records_step_of_place? h).2]
    rfl
  · cases m with
    | inserted => rfl
    | called c =>
      cases c with
      | create kind r =>
        show (t.store.create kind r).2.idCount = _
        rw [Store.create_eq]
        rfl
      | update kind r =>
        show (t.store.update kind r).2.idCount = _
        unfold Store.update
        split <;> rfl
      | delete kind r =>
        show (t.store.delete kind r).2.idCount = _
        unfold Store.delete
        split <;> rfl
      | _ => exact absurd rfl h
    | _ => exact absurd rfl h

/-- As many IDs were given as records without one were created. -/
theorem idCount_after (history : List Move) : (after history).store.idCount = history.countP Move.isNumbered := by
  induction history with
  | nil => rfl
  | cons m history ih => rw [after_cons, idCount_step, ih, List.countP_cons]

/-- The record that `create` stores lies where the move says. -/
theorem id_placed (h : t.store.idCount = history.countP Move.isNumbered) (kind : Kind) (r : kind.Record) :
    kind.id (t.store.placed kind r) = if (kind.id r).isEmpty then Move.nextId kind history else kind.id r := by
  unfold Store.placed Move.nextId
  rw [h]
  split
  · exact kind.id_withId r _
  · rfl

/-- A move leaves what lies elsewhere. -/
theorem get?_step_of_ne (h : t.store.idCount = history.countP Move.isNumbered) {m : Move}
    (hm : m.place? history ≠ some (kind, id)) : (t.step m).store.get? kind id = t.store.get? kind id := by
  by_cases hplace : m.place? history = none
  · exact Store.get?_congr (congrArg (·.get kind) (records_step_of_place? hplace).1) id
  · cases m with
    | inserted kind' r => exact Store.get?_insert_of_ne fun he => hm (congrArg some he)
    | called c =>
      cases c with
      | create kind' r =>
        show (t.store.create kind' r).2.get? kind id = _
        rw [Store.create_eq]
        refine Store.get?_insert_of_ne fun he => hm ?_
        rw [id_placed h] at he
        exact congrArg some he
      | update kind' r =>
        show (t.store.update kind' r).2.get? kind id = _
        rw [Store.get?_update, Store.get?_insert_of_ne fun he => hm (congrArg some he)]
        split <;> rfl
      | delete kind' r =>
        show (t.store.delete kind' r).2.get? kind id = _
        rw [Store.get?_delete, if_neg fun he => hm (congrArg some he)]
      | _ => exact absurd rfl hplace
    | _ => exact absurd rfl hplace

/-! ## A whole history -/

theorem lastWritten_cons_of_ne {m : Move} {r : kind.Record} (hm : m.place? history ≠ some (kind, id)) :
    LastWritten kind id (m :: history) r ↔ LastWritten kind id history r := by
  constructor
  · intro h
    cases h with
    | inserted h => exact absurd (congrArg (fun i => some (kind, i)) h) hm
    | created h hid =>
      refine absurd ?_ hm
      rw [Move.place?, h, if_neg (by simpa using hid)]
    | numbered h hid =>
      refine absurd ?_ hm
      simp [Move.place?, h, hid]
    | updated h _ => exact absurd (congrArg (fun i => some (kind, i)) h) hm
    | kept h _ => exact h
  · exact fun h => .kept h hm

/-- A record that is set up lies where it was put. -/
theorem get?_step_inserted (r' r : kind.Record) :
    (t.store.insert kind r').get? kind (kind.id r') = some r ↔
      LastWritten kind (kind.id r') (.inserted kind r' :: history) r := by
  rw [Store.get?_insert_self]
  constructor
  · rintro ⟨⟩
    exact .inserted rfl
  · rintro (_ | _ | _ | _ | ⟨-, hne⟩)
    · rfl
    · exact absurd rfl hne

/-- A record that is created lies under its ID, or under the next one if it has none. -/
theorem get?_step_created (h : t.store.idCount = history.countP Move.isNumbered) {r' : kind.Record}
    (hid : (if (kind.id r').isEmpty then Move.nextId kind history else kind.id r') = id) (r : kind.Record) :
    (t.store.create kind r').2.get? kind id = some r ↔
    LastWritten kind id (.called (.create kind r') :: history) r := by
  have hplace : Move.place? history (.called (.create kind r')) = some (kind, id) :=
    congrArg (fun i => some (kind, i)) hid
  have hplaced : kind.id (t.store.placed kind r') = id := (id_placed h kind r').trans hid
  rw [Store.create_eq, ← hplaced, Store.get?_insert_self, hplaced]
  by_cases hempty : kind.id r' = ""
  · have hnext : id = Move.nextId kind history := by rw [← hid, hempty]; rfl
    have hrecord : t.store.placed kind r' = kind.withId r' id := by
      rw [Store.placed, if_pos (by simp [hempty]), h, hnext]
      rfl
    rw [hrecord]
    constructor
    · rintro ⟨⟩
      exact .numbered hempty hnext
    · rintro (_ | ⟨he, hne⟩ | _ | _ | ⟨-, hne⟩)
      · exact absurd (he.symm.trans hempty) hne
      · rfl
      · exact absurd hplace hne
  · have hrecord : t.store.placed kind r' = r' := if_neg (by simpa using hempty)
    have hid' : kind.id r' = id := by rw [← hplaced, hrecord]
    rw [hrecord]
    constructor
    · rintro ⟨⟩
      exact .created hid' (hid' ▸ hempty)
    · rintro (_ | _ | ⟨he, -⟩ | _ | ⟨-, hne⟩)
      · rfl
      · exact absurd he hempty
      · exact absurd hplace hne

/-- An update replaces a record, if there is one. -/
theorem get?_step_updated {r' : kind.Record}
    (held : ∀ r, t.store.get? kind (kind.id r') = some r ↔ LastWritten kind (kind.id r') history r) (r : kind.Record) :
    (t.store.update kind r').2.get? kind (kind.id r') = some r ↔
      LastWritten kind (kind.id r') (.called (.update kind r') :: history) r := by
  rw [Store.get?_update, Store.get?_insert_self]
  constructor
  · intro hr
    split at hr
    · rename_i hsome
      obtain ⟨old, hold⟩ := Option.isSome_iff_exists.1 hsome
      cases hr
      exact .updated rfl ((held old).1 hold)
    · rename_i hnone
      rw [hr] at hnone
      exact absurd rfl hnone
  · rintro (_ | _ | _ | ⟨-, hold⟩ | ⟨-, hne⟩)
    · rw [(held _).2 hold]
      rfl
    · exact absurd rfl hne

/-- A delete leaves nothing where it removes. -/
theorem get?_step_deleted (r' r : kind.Record) :
    (t.store.delete kind r').2.get? kind (kind.id r') = some r ↔
      LastWritten kind (kind.id r') (.called (.delete kind r') :: history) r := by
  rw [Store.get?_delete, if_pos rfl]
  constructor
  · intro hr
    cases hr
  · rintro (_ | _ | _ | _ | ⟨-, hne⟩)
    exact absurd rfl hne

/-- At its own place a move leaves the record that it writes there, or none. -/
theorem get?_step_of_place (h : t.store.idCount = history.countP Move.isNumbered)
    (held : ∀ r, t.store.get? kind id = some r ↔ LastWritten kind id history r) {m : Move}
    (hm : m.place? history = some (kind, id)) (r : kind.Record) :
    (t.step m).store.get? kind id = some r ↔ LastWritten kind id (m :: history) r := by
  cases m with
  | inserted kind' r' =>
    cases hm
    exact get?_step_inserted r' r
  | called c =>
    cases c with
    | create kind' r' =>
      obtain ⟨rfl, hid⟩ := Prod.mk.inj (Option.some.inj hm)
      exact get?_step_created h hid r
    | update kind' r' =>
      cases hm
      exact get?_step_updated held r
    | delete kind' r' =>
      cases hm
      exact get?_step_deleted r' r
    | _ => cases hm
  | _ => cases hm

/-- The store holds the record that was last written. -/
theorem get?_after (history : List Move) (kind : Kind) (id : String) (r : kind.Record) :
    (after history).store.get? kind id = some r ↔ LastWritten kind id history r := by
  induction history generalizing r with
  | nil =>
    constructor
    · intro h
      cases kind <;> cases h
    · intro h
      cases h
  | cons m history ih =>
    have hcount := idCount_after history
    rw [after_cons]
    by_cases hm : m.place? history = some (kind, id)
    · exact get?_step_of_place hcount ih hm r
    · rw [get?_step_of_ne hcount hm, ih, lastWritten_cons_of_ne hm]

end Traffic

end MultiCluster
