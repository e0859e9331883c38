/-
The single values of a document. Each is a leaf of it (`LeafAt`), at the end of a path of keys and
positions. They can be found where every key has a text and the document is not itself a single value
(`leaves_isOk_iff`); else it is told which key is the first without a text (`leaves_eq_error`). What is
found are the leaves, in the order in which the document has them (`leaves_lists`).
-/
import MultiCluster.Answers.Source
import MultiCluster.Proofs.Except
import Mathlib
namespace MultiCluster

namespace Yaml.Value

/-- A single value other than null. -/
def IsSingle : Value → Prop
  | .bool _ => True
  | .number _ => True
  | .text _ => True
  | _ => False

/-- The value itself, or a part of one that is under a tag, an item of a list or the value of a key. -/
inductive PartOf (u : Value) : Value → Prop
  | self : PartOf u u
  | tagged {tag : String} {v : Value} : PartOf u v → PartOf u (.tagged tag v)
  | item {xs : List Value} {x : Value} : x ∈ xs → PartOf u x → PartOf u (.sequence xs)
  | entry {es : List (Value × Value)} {e : Value × Value} : e ∈ es → PartOf u e.2 → PartOf u (.mapping es)

/-- Every mapping in the value has the property. -/
def EachMapping (P : List (Value × Value) → Prop) (v : Value) : Prop := ∀ es, PartOf (.mapping es) v → P es

section EachMapping

variable {P : List (Value × Value) → Prop}

theorem eachMapping_null : EachMapping P .null := by
  intro es h
  cases h

theorem eachMapping_single {v : Value} (h : v.IsSingle) : EachMapping P v := by
  intro es hpart
  cases hpart <;> exact h.elim

theorem eachMapping_tagged {tag : String} {v : Value} : EachMapping P (.tagged tag v) ↔ EachMapping P v := by
  constructor
  · intro h es hpart
    exact h es (.tagged hpart)
  · intro h es hpart
    cases hpart with
    | tagged hpart => exact h es hpart

theorem eachMapping_sequence {xs : List Value} : EachMapping P (.sequence xs) ↔ ∀ x ∈ xs, EachMapping P x := by
  constructor
  · intro h x hx es hpart
    exact h es (.item hx hpart)
  · intro h es hpart
    cases hpart with
    | item hx hpart => exact h _ hx es hpart

theorem eachMapping_mapping {es : List (Value × Value)} :
    EachMapping P (.mapping es) ↔ P es ∧ ∀ e ∈ es, EachMapping P e.2 := by
  constructor
  · intro h
    exact ⟨h es .self, fun e he es' hpart => h es' (.entry he hpart)⟩
  · rintro ⟨hself, hparts⟩ es' hpart
    cases hpart with
    | self => exact hself
    | entry he hpart => exact hparts _ he es' hpart

end EachMapping

end Yaml.Value

namespace AnswerSources

open Yaml (Value)

/-! ## Leaves -/

/-- At `place` in the value, counting among the items or entries on each level, there is a single value
other than null that has the text; `path` are the steps that lead there. -/
inductive LeafAt : Value → (place : List Nat) → (path : List Step) → (text : String) → Prop
  | single {v : Value} {t : String} : v.IsSingle → scalarText? v = some t → LeafAt v [] [] t
  | tagged {tag : String} {v : Value} {place : List Nat} {path : List Step} {t : String} :
      LeafAt v place path t → LeafAt (.tagged tag v) place path t
  | item {xs : List Value} {i : Nat} {x : Value} {place : List Nat} {path : List Step} {t : String} :
      xs[i]? = some x → LeafAt x place path t → LeafAt (.sequence xs) (i :: place) (.index i :: path) t
  | entry {es : List (Value × Value)} {i : Nat} {k x : Value} {key : String} {place : List Nat} {path : List Step}
      {t : String} : es[i]? = some (k, x) → scalarText? k = some key → LeafAt x place path t →
      LeafAt (.mapping es) (i :: place) (.key key :: path) t

theorem not_leafAt_null {place : List Nat} {path : List Step} {t : String} : ¬ LeafAt .null place path t := by
  rintro ⟨⟨⟩⟩

theorem leafAt_single {v : Value} {text t : String} {place : List Nat} {path : List Step} (h : v.IsSingle)
    (ht : scalarText? v = some text) : LeafAt v place path t ↔ place = [] ∧ path = [] ∧ t = text := by
  constructor
  · intro hleaf
    cases hleaf with
    | single _ ht' => exact ⟨rfl, rfl, Option.some.inj (ht'.symm.trans ht)⟩
    | tagged => exact h.elim
    | item => exact h.elim
    | entry => exact h.elim
  · rintro ⟨rfl, rfl, rfl⟩
    exact .single h ht

theorem leafAt_tagged {tag : String} {v : Value} {place : List Nat} {path : List Step} {t : String} :
    LeafAt (.tagged tag v) place path t ↔ LeafAt v place path t := by
  constructor
  · intro h
    cases h with
    | single h => exact h.elim
    | tagged h => exact h
  · exact .tagged

/-! ## Keys -/

/-- A single value whose text is not empty. -/
def IsKey (key : Value) : Prop := ∃ t, scalarText? key = some t ∧ t ≠ ""

def Named (es : List (Value × Value)) : Prop := ∀ e ∈ es, IsKey e.1

/-- No text of a key has a character that a path has between its steps. -/
def Plain (es : List (Value × Value)) : Prop :=
  ∀ e ∈ es, ∀ key, scalarText? e.1 = some key → '.' ∉ key.toList ∧ '[' ∉ key.toList

/-- The texts of keys are pairwise different. -/
def Distinct (es : List (Value × Value)) : Prop :=
  es.Pairwise fun e e' => ∀ key, scalarText? e.1 = some key → scalarText? e'.1 ≠ some key

theorem keyText_eq_ok {key : Value} {t : String} : keyText key = .ok t ↔ scalarText? key = some t ∧ t ≠ "" := by
  unfold keyText
  split
  · rename_i k hk
    obtain ⟨hk, hne⟩ := Option.filter_eq_some_iff.1 hk
    constructor
    · rintro ⟨⟩
      exact ⟨hk, by simpa using hne⟩
    · rintro ⟨ht, -⟩
      rw [Option.some.inj (hk.symm.trans ht)]
  · rename_i hnone
    constructor
    · rintro ⟨⟩
    · rintro ⟨ht, hne⟩
      rw [ht, Option.filter_some, if_pos (by simpa using hne)] at hnone
      cases hnone

/-- The fault of a key that has no text. -/
def invalidKey (key : Value) : CommandFault := .invalidArgument ("invalid answer key: " ++ key.shown)

theorem keyText_isOk_iff {key : Value} : (∃ t, keyText key = .ok t) ↔ IsKey key := by
  simp only [keyText_eq_ok]
  rfl

theorem keyText_eq_error {key : Value} {e : CommandFault} :
    keyText key = .error e ↔ ¬ IsKey key ∧ e = invalidKey key := by
  rw [← keyText_isOk_iff]
  unfold keyText
  split
  · simp
  · simp [invalidKey, eq_comm]

/-! ## What is found -/

theorem leaves_single {v : Value} {t : String} (h : v.IsSingle) (ht : scalarText? v = some t) (path : List Step) :
    leaves path v = leaf path t := by
  cases v with
  | null => exact h.elim
  | bool b =>
    cases ht
    rw [leaves]
  | number n =>
    cases ht
    rw [leaves]
  | text s =>
    cases ht
    rw [leaves]
  | sequence xs => exact h.elim
  | mapping es => exact h.elim
  | tagged tag v => exact h.elim

theorem leaf_eq_ok {path : List Step} {t : String} {ls : List (List Step × String)} :
    leaf path t = .ok ls ↔ path ≠ [] ∧ ls = [(path, t)] := by
  unfold leaf
  cases path with
  | nil => simp
  | cons s r => simp [eq_comm]

theorem leaf_isOk_iff {v : Value} {t : String} (h : v.IsSingle) (ht : scalarText? v = some t) (path : List Step) :
    (∃ ls, leaves path v = .ok ls) ↔ v.EachMapping Named ∧ (path = [] → ¬ v.untagged.IsSingle) := by
  have hroot : v.untagged = v := by
    cases v with
    | tagged tag v => exact h.elim
    | _ => rfl
  rw [leaves_single h ht, hroot]
  simp only [leaf_eq_ok, exists_and_left, exists_eq, and_true]
  constructor
  · intro hne
    exact ⟨Value.eachMapping_single h, fun he => absurd he hne⟩
  · rintro ⟨-, hne⟩ he
    exact hne he h

mutual

-- by recursion on the document; the path matters only where it is empty, and below a step it is not
/-- The values below a path can be found where every key has a text and there is a path to the value
if it is a single one. -/
theorem leaves_isOk_iff (path : List Step) : (v : Value) →
    ((∃ ls, leaves path v = .ok ls) ↔ v.EachMapping Named ∧ (path = [] → ¬ v.untagged.IsSingle))
  | .null => by
    rw [leaves]
    exact iff_of_true ⟨[], rfl⟩ ⟨Value.eachMapping_null, fun _ => id⟩
  | .bool b => leaf_isOk_iff (v := .bool b) trivial rfl path
  | .number n => leaf_isOk_iff (v := .number n) trivial rfl path
  | .text s => leaf_isOk_iff (v := .text s) trivial rfl path
  | .sequence xs => by
    have hroot : ¬ (Value.sequence xs).untagged.IsSingle := id
    rw [leaves, leavesOfItems_isOk_iff path 0 xs, Value.eachMapping_sequence]
    exact ⟨fun h => ⟨h, fun _ => hroot⟩, And.left⟩
  | .mapping es => by
    have hroot : ¬ (Value.mapping es).untagged.IsSingle := id
    rw [leaves, leavesOfEntries_isOk_iff path es, Value.eachMapping_mapping]
    exact ⟨fun h => ⟨h, fun _ => hroot⟩, And.left⟩
  | .tagged tag v => by
    rw [leaves, leaves_isOk_iff path v, Value.eachMapping_tagged, Value.untagged]

theorem leavesOfItems_isOk_iff (path : List Step) (i : Nat) : (xs : List Value) →
    ((∃ ls, leavesOfItems path i xs = .ok ls) ↔ ∀ x ∈ xs, x.EachMapping Named)
  | [] => by
    rw [leavesOfItems]
    exact iff_of_true ⟨[], rfl⟩ (by simp)
  | x :: r => by
    have hx := leaves_isOk_iff (path ++ [.index i]) x
    rw [and_iff_left (fun h => by simp at h)] at hx
    rw [List.forall_mem_cons, ← hx, ← leavesOfItems_isOk_iff path (i + 1) r, leavesOfItems, exists_bind_eq_ok]
    constructor
    · rintro ⟨these, hthese, h⟩
      obtain ⟨others, hothers, -⟩ := exists_bind_eq_ok.1 h
      exact ⟨⟨these, hthese⟩, others, hothers⟩
    · rintro ⟨⟨these, hthese⟩, others, hothers⟩
      exact ⟨these, hthese, exists_bind_eq_ok.2 ⟨others, hothers, _, rfl⟩⟩

theorem leavesOfEntries_isOk_iff (path : List Step) : (es : List (Value × Value)) →
    ((∃ ls, leavesOfEntries path es = .ok ls) ↔ Named es ∧ ∀ e ∈ es, e.2.EachMapping Named)
  | [] => by
    rw [leavesOfEntries]
    exact iff_of_true ⟨[], rfl⟩ (by simp [Named])
  | (k, x) :: r => by
    have hx := fun key => leaves_isOk_iff (path ++ [.key key]) x
    simp only [List.append_eq_nil_iff, List.cons_ne_self, and_false, false_implies, and_true] at hx
    have hr := leavesOfEntries_isOk_iff path r
    rw [leavesOfEntries, exists_bind_eq_ok]
    unfold Named at hr ⊢
    rw [List.forall_mem_cons, List.forall_mem_cons]
    constructor
    · rintro ⟨key, hkey, h⟩
      obtain ⟨these, hthese, h⟩ := exists_bind_eq_ok.1 h
      obtain ⟨others, hothers, -⟩ := exists_bind_eq_ok.1 h
      obtain ⟨hnamed, hparts⟩ := hr.1 ⟨others, hothers⟩
      exact ⟨⟨⟨key, keyText_eq_ok.1 hkey⟩, hnamed⟩, (hx key).1 ⟨these, hthese⟩, hparts⟩
    · rintro ⟨⟨⟨key, hkey⟩, hnamed⟩, hpart, hparts⟩
      obtain ⟨these, hthese⟩ := (hx key).2 hpart
      obtain ⟨others, hothers⟩ := hr.2 ⟨hnamed, hparts⟩
      exact ⟨key, keyText_eq_ok.2 hkey, exists_bind_eq_ok.2
        ⟨these, hthese, exists_bind_eq_ok.2 ⟨others, hothers, _, rfl⟩⟩⟩

end

/-- `ls` are the leaves, below a path and in the order of the document, that `P` has. -/
def Lists (path : List Step) (P : List Nat → List Step → String → Prop) (ls : List (List Step × String)) : Prop :=
  ∃ found : List (List Nat × List Step × String), ls = found.map (fun l => (path ++ l.2.1, l.2.2)) ∧
    (∀ l, l ∈ found ↔ P l.1 l.2.1 l.2.2) ∧ found.Pairwise fun l l' => l.1 < l'.1

section Lists

variable {path : List Step} {P Q : List Nat → List Step → String → Prop} {these others : List (List Step × String)}

theorem Lists.nil (h : ∀ place steps t, ¬ P place steps t) : Lists path P [] := by
  refine ⟨[], rfl, fun l => ?_, .nil⟩
  simp [h]

theorem Lists.congr (h : Lists path P these) (hiff : ∀ place steps t, P place steps t ↔ Q place steps t) :
    Lists path Q these := by
  obtain ⟨found, hthese, hmem, hsorted⟩ := h
  exact ⟨found, hthese, fun l => (hmem l).trans (hiff ..), hsorted⟩

/-- What is below one step, and then what is at later places. -/
theorem Lists.append {i : Nat} {s : Step} (hthese : Lists (path ++ [s]) P these) (hothers : Lists path Q others)
    (hlater : ∀ place steps t, Q place steps t → ∃ j rest, place = j :: rest ∧ i < j) :
    Lists path (fun place steps t => (∃ p q, place = i :: p ∧ steps = s :: q ∧ P p q t) ∨ Q place steps t)
      (these ++ others) := by
  obtain ⟨found, rfl, hmem, hsorted⟩ := hthese
  obtain ⟨found', rfl, hmem', hsorted'⟩ := hothers
  refine ⟨found.map (fun l => (i :: l.1, s :: l.2.1, l.2.2)) ++ found', ?_, ?_, ?_⟩
  · simp
  · rintro ⟨place, steps, t⟩
    rw [List.mem_append, hmem']
    apply or_congr_left
    rw [List.mem_map]
    constructor
    · rintro ⟨⟨p, q, t'⟩, hl, he⟩
      cases he
      exact ⟨p, q, rfl, rfl, (hmem _).1 hl⟩
    · rintro ⟨p, q, rfl, rfl, hp⟩
      exact ⟨(p, q, t), (hmem _).2 hp, rfl⟩
  · rw [List.pairwise_append]
    refine ⟨?_, hsorted', ?_⟩
    · rw [List.pairwise_map]
      exact hsorted.imp fun hlt => List.Lex.cons hlt
    · intro l hl l' hl'
      obtain ⟨m, -, rfl⟩ := List.mem_map.1 hl
      obtain ⟨j, rest, hj, hlt⟩ := hlater _ _ _ ((hmem' l').1 hl')
      rw [hj]
      exact List.Lex.rel hlt

end Lists

theorem lists_single {v : Value} {text : String} (h : v.IsSingle) (htext : scalarText? v = some text) {path : List Step}
    {ls : List (List Step × String)} (hls : leaves path v = .ok ls) : Lists path (LeafAt v) ls := by
  rw [leaves_single h htext] at hls
  obtain ⟨-, rfl⟩ := leaf_eq_ok.1 hls
  refine ⟨[([], [], text)], by simp, ?_, List.pairwise_singleton ..⟩
  rintro ⟨place, steps, t⟩
  simp [leafAt_single h htext]

mutual

/-- What is found are the leaves, each at the end of its path, in the order of the document. -/
theorem leaves_lists {path : List Step} : (v : Value) → ∀ {ls : List (List Step × String)}, leaves path v = .ok ls →
    Lists path (LeafAt v) ls
  | .null, ls, h => by
    rw [leaves] at h
    cases h
    exact .nil fun _ _ _ => not_leafAt_null
  | .bool b, ls, h => lists_single (v := .bool b) trivial rfl h
  | .number n, ls, h => lists_single (v := .number n) trivial rfl h
  | .text s, ls, h => lists_single (v := .text s) trivial rfl h
  | .sequence xs, ls, h => by
    rw [leaves] at h
    refine (leavesOfItems_lists xs h).congr fun place steps t => ?_
    constructor
    · rintro ⟨i, x, p, q, hx, rfl, rfl, hleaf⟩
      rw [Nat.zero_add]
      exact .item hx hleaf
    · intro hleaf
      cases hleaf with
      | single h => exact h.elim
      | item hx hleaf => exact ⟨_, _, _, _, hx, by rw [Nat.zero_add], by rw [Nat.zero_add], hleaf⟩
  | .mapping es, ls, h => by
    rw [leaves] at h
    refine (leavesOfEntries_lists 0 es h).congr fun place steps t => ?_
    constructor
    · rintro ⟨i, k, x, key, p, q, he, hkey, rfl, rfl, hleaf⟩
      rw [Nat.zero_add]
      exact .entry he hkey hleaf
    · intro hleaf
      cases hleaf with
      | single h => exact h.elim
      | entry he hkey hleaf => exact ⟨_, _, _, _, _, _, he, hkey, by rw [Nat.zero_add], rfl, hleaf⟩
  | .tagged tag v, ls, h => by
    rw [leaves] at h
    exact (leaves_lists v h).congr fun _ _ _ => leafAt_tagged.symm

theorem leavesOfItems_lists {path : List Step} {i : Nat} : (xs : List Value) → ∀ {ls : List (List Step × String)},
    leavesOfItems path i xs = .ok ls → Lists path (fun place steps t => ∃ j x p q, xs[j]? = some x ∧
      place = (i + j) :: p ∧ steps = .index (i + j) :: q ∧ LeafAt x p q t) ls
  | [], ls, h => by
    rw [leavesOfItems] at h
    cases h
    exact .nil fun _ _ _ => by simp
  | x :: r, ls, h => by
    rw [leavesOfItems] at h
    obtain ⟨these, hthese, h⟩ := bind_eq_ok h
    obtain ⟨others, hothers, h⟩ := bind_eq_ok h
    cases h
    have hnext : ∀ j, i + 1 + j = i + (j + 1) := fun j => by omega
    refine ((leaves_lists x hthese).append (i := i) (leavesOfItems_lists r hothers) ?_).congr fun place steps t => ?_
    · rintro place steps t ⟨j, y, p, q, hy, rfl, rfl, hleaf⟩
      exact ⟨_, _, rfl, by omega⟩
    · constructor
      · rintro (⟨p, q, rfl, rfl, hleaf⟩ | ⟨j, y, p, q, hy, rfl, rfl, hleaf⟩)
        · exact ⟨0, x, p, q, rfl, rfl, rfl, hleaf⟩
        · exact ⟨j + 1, y, p, q, hy, by rw [hnext], by rw [hnext], hleaf⟩
      · rintro ⟨j, y, p, q, hy, rfl, rfl, hleaf⟩
        cases j with
        | zero =>
          cases hy
          exact .inl ⟨p, q, rfl, rfl, hleaf⟩
        | succ j =>
          exact .inr ⟨j, y, p, q, hy, by rw [hnext], by rw [hnext], hleaf⟩

theorem leavesOfEntries_lists {path : List Step} (i : Nat) : (es : List (Value × Value)) →
    ∀ {ls : List (List Step × String)}, leavesOfEntries path es = .ok ls →
      Lists path (fun place steps t => ∃ (j : Nat) (k x : Value) (key : String) (p : List Nat) (q : List Step),
        es[j]? = some (k, x) ∧ scalarText? k = some key ∧ place = (i + j) :: p ∧ steps = .key key :: q ∧
          LeafAt x p q t) ls
  | [], ls, h => by
    rw [leavesOfEntries] at h
    cases h
    exact .nil fun _ _ _ => by simp
  | (k, x) :: r, ls, h => by
    rw [leavesOfEntries] at h
    obtain ⟨key, hkey, h⟩ := bind_eq_ok h
    obtain ⟨these, hthese, h⟩ := bind_eq_ok h
    obtain ⟨others, hothers, h⟩ := bind_eq_ok h
    cases h
    have hkey := (keyText_eq_ok.1 hkey).1
    have hnext : ∀ j, i + 1 + j = i + (j + 1) := fun j => by omega
    refine ((leaves_lists x hthese).append (i := i) (leavesOfEntries_lists (i + 1) r hothers) ?_).congr
      fun place steps t => ?_
    · rintro place steps t ⟨j, k', y, key', p, q, he, hkey', rfl, rfl, hleaf⟩
      exact ⟨_, _, rfl, by omega⟩
    · constructor
      · rintro (⟨p, q, rfl, rfl, hleaf⟩ | ⟨j, k', y, key', p, q, he, hkey', rfl, rfl, hleaf⟩)
        · exact ⟨0, k, x, key, p, q, rfl, hkey, rfl, rfl, hleaf⟩
        · exact ⟨j + 1, k', y, key', p, q, he, hkey', by rw [hnext], rfl, hleaf⟩
      · rintro ⟨j, k', y, key', p, q, he, hkey', rfl, rfl, hleaf⟩
        cases j with
        | zero =>
          cases he
          obtain rfl := Option.some.inj (hkey.symm.trans hkey')
          exact .inl ⟨p, q, rfl, rfl, hleaf⟩
        | succ j => exact .inr ⟨j, k', y, key', p, q, he, hkey', by rw [hnext], rfl, hleaf⟩

end

theorem mem_leaves {v : Value} {ls : List (List Step × String)} (h : leaves [] v = .ok ls) (path : List Step)
    (t : String) : (path, t) ∈ ls ↔ ∃ place, LeafAt v place path t := by
  obtain ⟨found, rfl, hmem, -⟩ := leaves_lists v h
  rw [List.mem_map]
  constructor
  · rintro ⟨⟨place, steps, t'⟩, hl, he⟩
    cases he
    exact ⟨place, (hmem _).1 hl⟩
  · rintro ⟨place, hleaf⟩
    exact ⟨(place, path, t), (hmem _).2 hleaf, rfl⟩

/-! ## What is refused -/

/-- The key is the first of the document that has no text. -/
inductive FirstNameless : Value → (key : Value) → Prop
  | tagged {tag : String} {v key : Value} : FirstNameless v key → FirstNameless (.tagged tag v) key
  | item {earlier later : List Value} {x key : Value} : (∀ y ∈ earlier, y.EachMapping Named) → FirstNameless x key →
      FirstNameless (.sequence (earlier ++ x :: later)) key
  | key {earlier later : List (Value × Value)} {key x : Value} : (∀ e ∈ earlier, IsKey e.1 ∧ e.2.EachMapping Named) →
      ¬ IsKey key → FirstNameless (.mapping (earlier ++ (key, x) :: later)) key
  | entry {earlier later : List (Value × Value)} {k x key : Value} :
    (∀ e ∈ earlier, IsKey e.1 ∧ e.2.EachMapping Named) →
      IsKey k → FirstNameless x key → FirstNameless (.mapping (earlier ++ (k, x) :: later)) key

/-- Why single values cannot be found below a path: one is at its end and it is empty, or a key has no text. -/
inductive LeavesFault (path : List Step) (v : Value) : CommandFault → Prop
  | single : path = [] → v.untagged.IsSingle → LeavesFault path v (.invalidArgument "values file must be a map")
  | key {key : Value} : FirstNameless v key → LeavesFault path v (invalidKey key)

theorem not_firstNameless_single {v key : Value} (h : v.IsSingle) : ¬ FirstNameless v key := by
  intro hkey
  cases hkey <;> exact h

theorem leaf_eq_error {v : Value} {t : String} (h : v.IsSingle) (ht : scalarText? v = some t) {path : List Step}
    {e : CommandFault} : leaves path v = .error e ↔ LeavesFault path v e := by
  rw [leaves_single h ht]
  unfold leaf
  have hroot : v.untagged.IsSingle := by
    cases v with
    | tagged tag v => exact h.elim
    | _ => exact h
  split
  · rename_i hempty
    constructor
    · rintro ⟨⟩
      exact .single (List.isEmpty_iff.1 hempty) hroot
    · intro hfault
      cases hfault with
      | single => rfl
      | key hkey => exact absurd hkey (not_firstNameless_single h)
  · rename_i hne
    refine iff_of_false nofun fun hfault => ?_
    cases hfault with
    | single hempty => exact hne (List.isEmpty_iff.2 hempty)
    | key hkey => exact not_firstNameless_single h hkey

/-- Below a step there is always a path, so only a key can be at fault. -/
theorem leavesFault_step {path : List Step} {s : Step} {v : Value} {e : CommandFault} :
    LeavesFault (path ++ [s]) v e ↔ ∃ key, FirstNameless v key ∧ e = invalidKey key := by
  constructor
  · intro h
    cases h with
    | single hempty => simp at hempty
    | key hkey => exact ⟨_, hkey, rfl⟩
  · rintro ⟨key, hkey, rfl⟩
    exact .key hkey

theorem leaves_step_isOk_iff (path : List Step) (s : Step) {v : Value} :
    (∃ ls, leaves (path ++ [s]) v = .ok ls) ↔ v.EachMapping Named := by
  rw [leaves_isOk_iff]
  simp

mutual

theorem leaves_eq_error (path : List Step) : (v : Value) → ∀ {e}, leaves path v = .error e ↔ LeavesFault path v e
  | .null, e => by
    rw [leaves]
    refine iff_of_false nofun fun h => ?_
    cases h with
    | single _ h => exact h
    | key h => cases h
  | .bool b, e => leaf_eq_error (v := .bool b) trivial rfl
  | .number n, e => leaf_eq_error (v := .number n) trivial rfl
  | .text s, e => leaf_eq_error (v := .text s) trivial rfl
  | .sequence xs, e => by
    rw [leaves, leavesOfItems_eq_error path 0 xs]
    constructor
    · rintro ⟨earlier, x, later, rfl, hearlier, key, hkey, rfl⟩
      exact .key (.item hearlier hkey)
    · intro h
      cases h with
      | single _ h => exact h.elim
      | key h =>
        cases h with
        | item hearlier hkey => exact ⟨_, _, _, rfl, hearlier, _, hkey, rfl⟩
  | .mapping es, e => by
    rw [leaves, leavesOfEntries_eq_error path es]
    constructor
    · rintro ⟨earlier, ⟨k, x⟩, later, rfl, hearlier, ⟨hk, rfl⟩ | ⟨hk, key, hkey, rfl⟩⟩
      · exact .key (.key hearlier hk)
      · exact .key (.entry hearlier hk hkey)
    · intro h
      cases h with
      | single _ h => exact h.elim
      | key h =>
        cases h with
        | key hearlier hk => exact ⟨_, _, _, rfl, hearlier, .inl ⟨hk, rfl⟩⟩
        | entry hearlier hk hkey => exact ⟨_, _, _, rfl, hearlier, .inr ⟨hk, _, hkey, rfl⟩⟩
  | .tagged tag v, e => by
    rw [leaves, leaves_eq_error path v]
    constructor
    · intro h
      cases h with
      | single hempty h => exact .single hempty h
      | key h => exact .key (.tagged h)
    · intro h
      cases h with
      | single hempty h => exact .single hempty h
      | key h =>
        cases h with
        | tagged h => exact .key h

theorem leavesOfItems_eq_error (path : List Step) (i : Nat) : (xs : List Value) → ∀ {e},
    leavesOfItems path i xs = .error e ↔
      First (fun x => x.EachMapping Named) (fun x => ∃ key, FirstNameless x key ∧ e = invalidKey key) xs
  | [], e => by
    rw [leavesOfItems]
    exact iff_of_false nofun not_first_nil
  | x :: r, e => by
    rw [leavesOfItems, first_cons, bind_eq_error, leaves_eq_error (path ++ [Step.index i]) x, leavesFault_step,
      ← leavesOfItems_eq_error path (i + 1) r, ← leaves_step_isOk_iff path (.index i)]
    apply or_congr_right
    constructor
    · rintro ⟨these, hthese, h⟩
      rcases bind_eq_error.1 h with h | ⟨others, -, h⟩
      · exact ⟨⟨these, hthese⟩, h⟩
      · cases h
    · rintro ⟨⟨these, hthese⟩, h⟩
      exact ⟨these, hthese, bind_eq_error.2 (.inl h)⟩

theorem leavesOfEntries_eq_error (path : List Step) : (es : List (Value × Value)) → ∀ {e},
    leavesOfEntries path es = .error e ↔ First (fun entry => IsKey entry.1 ∧ entry.2.EachMapping Named)
      (fun entry => (¬ IsKey entry.1 ∧ e = invalidKey entry.1) ∨
        IsKey entry.1 ∧ ∃ key, FirstNameless entry.2 key ∧ e = invalidKey key) es
  | [], e => by
    rw [leavesOfEntries]
    exact iff_of_false nofun not_first_nil
  | (k, x) :: r, e => by
    rw [leavesOfEntries, first_cons, bind_eq_error, keyText_eq_error, or_assoc, ← leavesOfEntries_eq_error path r,
      ← keyText_isOk_iff]
    apply or_congr_right
    constructor
    · rintro ⟨key, hkey, h⟩
      rcases bind_eq_error.1 h with h | ⟨these, hthese, h⟩
      · exact .inl ⟨⟨key, hkey⟩, leavesFault_step.1 ((leaves_eq_error (path ++ [.key key]) x).1 h)⟩
      · rcases bind_eq_error.1 h with h | ⟨others, -, h⟩
        · exact .inr ⟨⟨⟨key, hkey⟩, (leaves_step_isOk_iff path (.key key)).1 ⟨these, hthese⟩⟩, h⟩
        · cases h
    · rintro (⟨⟨key, hkey⟩, h⟩ | ⟨⟨⟨key, hkey⟩, hx⟩, h⟩)
      · exact ⟨key, hkey, bind_eq_error.2 (.inl ((leaves_eq_error (path ++ [.key key]) x).2 (leavesFault_step.2 h)))⟩
      · obtain ⟨these, hthese⟩ := (leaves_step_isOk_iff path (.key key)).2 hx
        exact ⟨key, hkey, bind_eq_error.2 (.inr ⟨these, hthese, bind_eq_error.2 (.inl h)⟩)⟩

end

end AnswerSources

end MultiCluster
