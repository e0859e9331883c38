/-
What is known of a field that was read, and of a member that was written. A member that an object has
under a name is the one its field is read from (`single?_of_mem`); texts and maps of texts are read as the
values they have (`value?_of_textField`, `value?_of_dictField`). Of what is written under one name the last
stands (`member?_object`).
-/
import MultiCluster.Record.Wire
namespace MultiCluster

open Json (Tree)

namespace Dict

variable {α β : Type}

theorem get?_map (f : α → β) (d : Dict α) (k : String) : (d.map f).get? k = (d.get? k).map f := by
  show find k (d.toList.map fun e => (e.1, f e.2)) = (find k d.toList).map f
  induction d.toList with
  | nil => rfl
  | cons e r ih =>
    rw [List.map_cons, find, find, ih]
    split <;> rfl

theorem map_insert (f : α → β) (d : Dict α) (k : String) (v : α) : (d.insert k v).map f = (d.map f).insert k (f v) := by
  refine ext_get? fun k' => ?_
  rw [get?_map, get?_insert, get?_insert, get?_map]
  split <;> rfl

theorem map_insertMany (f : α → β) (d : Dict α) (l : List (String × α)) :
    (d.insertMany l).map f = (d.map f).insertMany (l.map fun e => (e.1, f e.2)) := by
  induction l generalizing d with
  | nil => rfl
  | cons e l ih => rw [insertMany_cons, ih, map_insert]; rfl

end Dict

namespace Json

/-- What a record may leave out: an empty text and an object without members. -/
def isBlank : Json → Bool
  | .text s => s.isEmpty
  | .object ms => ms.isEmpty
  | _ => false

/-- The tree is an object with that member. -/
def Tree.Has (t : Tree) (name : String) (v : Tree) : Prop := ∃ ms, t = .object ms ∧ (some name, v) ∈ ms

instance (t : Tree) (name : String) (P : Tree → Prop) [DecidablePred P] : Decidable (∃ v, t.Has name v ∧ P v) :=
  match t with
  | .object ms => decidable_of_iff (∃ m ∈ ms, m.1 = some name ∧ P m.2) (by
      constructor
      · rintro ⟨⟨_, v⟩, hm, rfl, hp⟩
        exact ⟨v, ⟨ms, rfl, hm⟩, hp⟩
      · rintro ⟨v, ⟨_, h, hm⟩, hp⟩
        cases h
        exact ⟨_, hm, rfl, hp⟩)
  | .null | .bool _ | .number _ | .text _ | .array _ => isFalse (by rintro ⟨_, ⟨_, h, _⟩, _⟩; cases h)

end Json

namespace Wire

/-! ## Members that are written -/

/-- The value of a member that is written under the name. -/
def named (name : String) (m : Option (String × Json)) : Option Json :=
  m.bind fun e => if e.1 = name then some e.2 else none

@[simp] theorem named_none (name : String) : named name none = none := rfl

@[simp] theorem named_some (name name' : String) (j : Json) :
    named name (some (name', j)) = if name' = name then some j else none := rfl

@[simp] theorem named_always (name name' : String) (j : Json) :
    named name (always name' j) = if name' = name then some j else none := rfl

@[simp] theorem named_unlessEmpty (name name' s : String) :
    named name (unlessEmpty name' s) = if name' = name then if s.isEmpty then none else some (.text s) else none := by
  unfold unlessEmpty
  cases s.isEmpty <;> simp

@[simp] theorem named_map {α : Type} (name name' : String) (write : α → Json) (o : Option α) :
    named name (o.map fun a => (name', write a)) = if name' = name then o.map write else none := by
  cases o <;> simp

@[simp] theorem named_unless (name name' : String) (b : Bool) (j : Json) :
    named name (if b then none else some (name', j)) = if name' = name then if b then none else some j else none := by
  cases b <;> simp

/-- Of the members of one name the last one stands. -/
theorem member?_object (l : List (Option (String × Json))) (name : String) :
    (object l).member? name = l.foldl (fun found m => (named name m).or found) none := by
  have hfold : ∀ d : Dict Json, (d.insertMany (l.filterMap id)).get? name =
      l.foldl (fun found m => (named name m).or found) (d.get? name) := by
    induction l with
    | nil => exact fun _ => rfl
    | cons m l ih =>
      intro d
      cases m with
      | none => exact ih d
      | some e =>
        show ((d.insert e.1 e.2).insertMany (l.filterMap id)).get? name = _
        rw [ih, Dict.get?_insert, List.foldl_cons, named_some]
        split <;> rfl
  exact hfold ∅

/-! ## Fields that are read -/

theorem single?_of_mem {name : String} {ms : List (Option String × Tree)} {field : Option Tree} {v : Tree}
    (h : single? name ms = some field) (hv : (some name, v) ∈ ms) : field = some v := by
  have hm : (some name, v) ∈ ms.filter fun m => m.1 == some name := List.mem_filter.2 ⟨hv, by simp⟩
  unfold single? at h
  split at h
  · rename_i hnone
    rw [hnone] at hm
    cases hm
  · rename_i m hone
    rw [hone] at hm
    cases List.mem_singleton.1 hm
    cases h
    rfl
  · cases h

theorem mapM_cons_eq_some {α β : Type} {f : α → Option β} {x : α} {l : List α} {r : List β}
    (h : (x :: l).mapM f = some r) : ∃ y q, f x = some y ∧ l.mapM f = some q ∧ r = y :: q := by
  rw [List.mapM_cons] at h
  obtain ⟨y, hy, h⟩ := Option.bind_eq_some_iff.1 h
  obtain ⟨q, hq, h⟩ := Option.bind_eq_some_iff.1 h
  cases h
  exact ⟨y, q, hy, hq, rfl⟩

theorem length_of_mapM {α β : Type} {f : α → Option β} {l : List α} {r : List β} (h : l.mapM f = some r) :
    r.length = l.length := by
  induction l generalizing r with
  | nil => cases h; rfl
  | cons a l ih =>
    obtain ⟨y, q, -, hq, rfl⟩ := mapM_cons_eq_some h
    rw [List.length_cons, List.length_cons, ih hq]

theorem getElem?_of_mapM {α β : Type} {f : α → Option β} {l : List α} {r : List β} (h : l.mapM f = some r) {i : Nat}
    {x : α} (hx : l[i]? = some x) : ∃ y, r[i]? = some y ∧ f x = some y := by
  induction l generalizing r i with
  | nil => cases hx
  | cons a l ih =>
    obtain ⟨y, q, hy, hq, rfl⟩ := mapM_cons_eq_some h
    cases i with
    | zero => cases hx; exact ⟨y, rfl, hy⟩
    | succ i => exact ih hq hx

/-- The field of a member that an object has. -/
theorem field_of_has {names : List String} {t v : Tree} {fields : List (Option Tree)}
    (h : fields? names t = some fields) {i : Nat} {name : String} (hn : names[i]? = some name) (hv : t.Has name v) :
    fields[i]? = some (some v) := by
  obtain ⟨ms, rfl, hv⟩ := hv
  change (if ms.any fun m => m.1.isNone then none else names.mapM fun n => single? n ms) = some fields at h
  split at h
  · cases h
  · obtain ⟨field, hfield, hsingle⟩ := getElem?_of_mapM h hn
    rw [hfield, single?_of_mem hsingle hv]

theorem value?_of_textField {v : Tree} {s : String} (h : textField (some v) = some s) : v.value? = some (.text s) := by
  cases v with
  | text t =>
    obtain rfl : t = some s := h
    rfl
  | _ => cases h

theorem textMember?_eq_some {m : Option String × Tree} {e : String × String} (h : textMember? m = some e) :
    m = (some e.1, .text (some e.2)) := by
  obtain ⟨name, v⟩ := m
  obtain ⟨k, hk, h⟩ := Option.bind_eq_some_iff.1 h
  obtain ⟨s, hs, h⟩ := Option.bind_eq_some_iff.1 h
  cases h
  cases v with
  | text t =>
    obtain rfl : t = some s := hs
    exact congrArg (·, Tree.text (some s)) hk
  | _ => cases hs

theorem valueMembers_of_mapM {ms : List (Option String × Tree)} {l : List (String × String)}
    (h : ms.mapM textMember? = some l) (depth : Nat) :
    Tree.valueMembers depth ms = some (l.map fun e => (e.1, .text e.2)) := by
  induction ms generalizing l with
  | nil => cases h; rfl
  | cons m ms ih =>
    obtain ⟨e, q, he, hq, rfl⟩ := mapM_cons_eq_some h
    obtain rfl := textMember?_eq_some he
    simp only [Tree.valueMembers, Tree.valueIn, ih hq]
    rfl

theorem value?_of_dictField {v : Tree} {d : Dict String} (h : dictField (some v) = some d) :
    v.value? = some (Json.ofTexts d) := by
  cases v with
  | object ms =>
    change (ms.mapM textMember?).map Dict.ofList = some d at h
    obtain ⟨l, hl, rfl⟩ := Option.map_eq_some_iff.1 h
    have hmembers := valueMembers_of_mapM hl (Tree.maxDepth - 1)
    have hmap : (Dict.ofList l).map Json.text = Dict.ofList (l.map fun e => (e.1, Json.text e.2)) :=
      Dict.map_insertMany Json.text ∅ l
    show (if Tree.maxDepth = 0 then none else (Tree.valueMembers (Tree.maxDepth - 1) ms).map Json.ofMembers) = _
    rw [if_neg (by decide), hmembers, Json.ofTexts, hmap]
    rfl
  | _ => cases h

/-- A page that was read, its records as they came. -/
theorem page_of_page {α : Type} {read : Tree → Option α} {t : Tree} {p : Page α} (h : Page.ofTree? read t = some p) :
    ∃ q, Page.ofTree? some t = some q ∧ q.pagination = p.pagination ∧ q.records.mapM read = some p.records := by
  obtain ⟨fields, hfields, h⟩ := Option.bind_eq_some_iff.1 h
  split at h
  · rename_i data pagination
    obtain ⟨records, hrecords, h⟩ := Option.bind_eq_some_iff.1 h
    obtain ⟨pagination', hpagination, h⟩ := Option.bind_eq_some_iff.1 h
    cases h
    have hdata : ∃ ts, orEmpty [] (list? some) data = some ts ∧ ts.mapM read = some records := by
      cases data with
      | none =>
        cases hrecords
        exact ⟨[], rfl, rfl⟩
      | some v =>
        cases v with
        | array xs =>
          have hxs : xs.mapM (m := Option) (fun x => pure (id x)) = pure (xs.map id) := List.mapM_pure
          exact ⟨xs, hxs.trans (congrArg some xs.map_id), hrecords⟩
        | _ => cases hrecords
    obtain ⟨ts, hts, hread⟩ := hdata
    refine ⟨⟨ts, pagination'⟩, ?_, rfl, hread⟩
    simp [Page.ofTree?, hfields, hts, hpagination]
  · cases h

end Wire

end MultiCluster
