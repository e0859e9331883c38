/-
IDs by number. A record that is created without an ID gets the next one, and among the IDs that were given so none
is given twice (`numberedId_injective`). What may lie under it already is a record that came with that very ID
(`exists_brings`), and the new record takes its place; else it is one more record, and the others stay.
-/
import MultiCluster.Proofs.Store.History
import Mathlib
namespace MultiCluster

/-! ## Sizes -/

namespace Dict

variable {α : Type}

theorem length_insertAt {k : String} {v : α} {l : List (String × α)} (h : Ascending l) :
    (insertAt k v l).length = l.length + if (find k l).isSome then 0 else 1 := by
  induction l with
  | nil => rfl
  | cons e l ih =>
    obtain ⟨k', v'⟩ := e
    obtain ⟨hlater, hl⟩ := List.pairwise_cons.1 h
    unfold insertAt
    split
    · rename_i hlt
      -- what comes later is greater still
      have hnone : find k ((k', v') :: l) = none := by
        rw [Option.eq_none_iff_forall_ne_some]
        intro w hw
        rcases List.mem_cons.1 ((find_eq_some_iff h).1 hw) with heq | hmem
        · cases heq
          exact String.lt_irrefl k hlt
        · exact String.lt_irrefl k (String.lt_trans hlt (hlater _ hmem))
      rw [hnone]
      rfl
    · split
      · rename_i heq
        simp [find, heq]
      · rename_i hne
        rw [List.length_cons, ih hl, find, if_neg (Ne.symm hne), List.length_cons]
        omega

/-- An entry is added, or it takes the place of the one with its key. -/
theorem size_insert (d : Dict α) (k : String) (v : α) :
    (d.insert k v).size = d.size + if (d.get? k).isSome then 0 else 1 := length_insertAt d.ascending

end Dict

/-! ## Numbers -/

variable {kind : Kind} {id : String} {history : List Move} {s t : Store}

def numberedId (kind : Kind) (n : Nat) : String := kind.collection ++ "-" ++ toString n

theorem numberedId_injective {m n : Nat} (h : numberedId kind m = numberedId kind n) : m = n :=
  Store.numbered_injective h

/-- The move brings a record that has the ID. -/
def Move.Brings (kind : Kind) (id : String) (m : Move) : Prop :=
  ∃ r : kind.Record, kind.id r = id ∧ (m = .inserted kind r ∨ m = .called (.create kind r))

/-- A record that lies under an ID was brought with it, or the ID is one of the numbers given so far. -/
theorem LastWritten.brought_or_numbered {r : kind.Record} (h : LastWritten kind id history r) :
    (∃ m ∈ history, m.Brings kind id) ∨ ∃ n ≤ history.countP Move.isNumbered, id = numberedId kind n := by
  have hcons {m : Move} {history : List Move}
      (ih : (∃ m ∈ history, m.Brings kind id) ∨ ∃ n ≤ history.countP Move.isNumbered, id = numberedId kind n) :
      (∃ m' ∈ m :: history, m'.Brings kind id) ∨ ∃ n ≤ (m :: history).countP Move.isNumbered,
        id = numberedId kind n := by
    rcases ih with ⟨m', hm', hbrings⟩ | ⟨n, hn, hid⟩
    · exact .inl ⟨m', List.mem_cons_of_mem m hm', hbrings⟩
    · exact .inr ⟨n, hn.trans (List.sublist_cons_self m history).countP_le, hid⟩
  induction h with
  | inserted h => exact .inl ⟨_, List.mem_cons_self .., _, h, .inl rfl⟩
  | created h hid => exact .inl ⟨_, List.mem_cons_self .., _, h, .inr rfl⟩
  | numbered h hid =>
    refine .inr ⟨_, le_of_eq ?_, hid⟩
    rw [List.countP_cons_of_pos (by simp [Move.isNumbered, h])]
  | updated h hold ih => exact hcons ih
  | kept h hm ih => exact hcons ih

/-- Only a record that was brought with the next ID lies under it. -/
theorem exists_brings {r : kind.Record} (h : LastWritten kind (Move.nextId kind history) history r) :
    ∃ m ∈ history, m.Brings kind (Move.nextId kind history) := by
  rcases h.brought_or_numbered with hbrings | ⟨n, hn, hid⟩
  · exact hbrings
  · have hnext : history.countP Move.isNumbered + 1 = n := numberedId_injective hid
    omega

/-! ## Creating -/

namespace Store

variable {r : kind.Record}

/-- One more record of the kind is stored, under an ID that none had, and those that were stored still are. -/
structure Adds (s : Store) (kind : Kind) (r : kind.Record) (t : Store) : Prop where
  fresh : s.get? kind (kind.id r) = none
  stored : t.get? kind (kind.id r) = some r
  count : (t.records.get kind).size = (s.records.get kind).size + 1
  kept : ∀ kind' id' r', s.get? kind' id' = some r' → t.get? kind' id' = some r'

/-- The record is stored in the place of another one of the kind, and nothing else changes. -/
structure Replaces (s : Store) (kind : Kind) (r : kind.Record) (t : Store) : Prop where
  taken : ∃ old, s.get? kind (kind.id r) = some old
  stored : t.get? kind (kind.id r) = some r
  count : (t.records.get kind).size = (s.records.get kind).size
  kept : ∀ kind' id', (kind', id') ≠ (kind, kind.id r) → t.get? kind' id' = s.get? kind' id'

theorem size_insert (s : Store) (kind : Kind) (r : kind.Record) :
    ((s.insert kind r).records.get kind).size =
      (s.records.get kind).size + if (s.get? kind (kind.id r)).isSome then 0 else 1 := by
  rw [insert, ByKind.get_set_self, Dict.size_insert]
  rfl

/-- Between the stores the record was inserted, and more than the records may differ. -/
theorem get?_of_records (h : t.records = (s.insert kind r).records) (kind' : Kind) (id' : String) :
    t.get? kind' id' = (s.insert kind r).get? kind' id' := get?_congr (congrArg (·.get kind') h) id'

theorem adds_of_records (h : t.records = (s.insert kind r).records) (hnone : s.get? kind (kind.id r) = none) :
    s.Adds kind r t where
  fresh := hnone
  stored := by rw [get?_of_records h, get?_insert_self]
  count := by rw [h, size_insert, hnone]; rfl
  kept kind' id' r' hr' := by
    rw [get?_of_records h, get?_insert_of_ne, hr']
    rintro ⟨⟩
    rw [hnone] at hr'
    cases hr'

theorem replaces_of_records (h : t.records = (s.insert kind r).records) (hsome : s.get? kind (kind.id r) ≠ none) :
    s.Replaces kind r t where
  taken := Option.ne_none_iff_exists'.1 hsome
  stored := by rw [get?_of_records h, get?_insert_self]
  count := by rw [h, size_insert, Option.isSome_iff_ne_none.2 hsome]; rfl
  kept kind' id' hne := by rw [get?_of_records h, get?_insert_of_ne hne.symm]

end Store

/-- A record without an ID is stored under the next one. It is one more record where nothing lies under that ID, and so
it is unless a record was brought with that ID, which it would replace. -/
theorem Traffic.create_numbered (history : List Move) (kind : Kind) (r : kind.Record) (h : kind.id r = "") :
    ∃ t, (Client.create kind r).run (after history).store = (.ok (kind.withId r (Move.nextId kind history)), t) ∧
      ((∀ m ∈ history, ¬ m.Brings kind (Move.nextId kind history)) →
        (after history).store.get? kind (Move.nextId kind history) = none) ∧
      ((after history).store.get? kind (Move.nextId kind history) = none →
        (after history).store.Adds kind (kind.withId r (Move.nextId kind history)) t) ∧
      ((after history).store.get? kind (Move.nextId kind history) ≠ none →
        (after history).store.Replaces kind (kind.withId r (Move.nextId kind history)) t) := by
  have hid : kind.id (kind.withId r (Move.nextId kind history)) = Move.nextId kind history := kind.id_withId r _
  have hplaced : (after history).store.placed kind r = kind.withId r (Move.nextId kind history) := by
    rw [Store.placed, if_pos (by simp [h]), idCount_after]
    rfl
  have hreply : ((after history).store.create kind r).1 = kind.withId r (Move.nextId kind history) := by
    rw [Store.create_eq, hplaced]
  have hrun : (Client.create kind r).run (after history).store =
      (.ok (kind.withId r (Move.nextId kind history)), ((after history).store.create kind r).2) :=
    Prod.ext (congrArg Except.ok hreply) rfl
  have hrecords : ((after history).store.create kind r).2.records =
      ((after history).store.insert kind (kind.withId r (Move.nextId kind history))).records := by
    rw [Store.create_eq, hplaced]
    rfl
  refine ⟨_, hrun, fun hbrings => ?_, fun hnone => ?_, fun hsome => ?_⟩
  · rw [Option.eq_none_iff_forall_ne_some]
    intro old hold
    obtain ⟨m, hm, hmoved⟩ := exists_brings ((get?_after ..).1 hold)
    exact hbrings m hm hmoved
  · exact Store.adds_of_records hrecords (hid.symm ▸ hnone)
  · exact Store.replaces_of_records hrecords (hid.symm ▸ hsome)

/-- An app was brought with the first ID that is given to apps. -/
def broughtFirst : List Move := [.inserted .app { id := "multiclusterapps-1", name := "shop" }]

theorem Traffic.create_numbered_brought : Kind.app.id { name := "web" } = "" ∧
    ∃ t, (Client.create .app { name := "web" }).run (after broughtFirst).store =
        (.ok { id := "multiclusterapps-1", name := "web" }, t) ∧
      (after broughtFirst).store.Replaces .app { id := "multiclusterapps-1", name := "web" } t := by
  obtain ⟨t, hrun, -, -, hreplaces⟩ := create_numbered broughtFirst .app { name := "web" } rfl
  exact ⟨rfl, t, hrun, hreplaces (by decide)⟩

/-- The app that was there is not stored any more, and there are no more apps than before. -/
theorem Traffic.create_overwrites :
    ∃ stored t, (Client.create .app { name := "web" }).run (after broughtFirst).store = (.ok stored, t) ∧
      (after broughtFirst).store.get? .app (Kind.app.id stored) = some { id := "multiclusterapps-1", name := "shop" } ∧
      t.get? .app (Kind.app.id stored) ≠ some { id := "multiclusterapps-1", name := "shop" } ∧
      (t.records.get .app).size ≠ ((after broughtFirst).store.records.get .app).size + 1 :=
  ⟨_, _, rfl, rfl, by decide, by decide⟩

end MultiCluster
