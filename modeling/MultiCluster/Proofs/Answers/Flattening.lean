/-
Values documents as flat answers. Texts of paths are read back from the left (`pathText_injective`): a
key ends before a dot or a bracket, which it must not hold itself, and a position before its closing
bracket. So no leaf of a document overwrites another (`values_keep_leaves`).
-/
import MultiCluster.Proofs.Answers.Leaves
import Mathlib
namespace MultiCluster

/-- Where both texts go on up to the first character that fails a test, they have the same beginnings. -/
theorem Text.eq_of_append_stop {p : Char → Prop} {a a' b b' : List Char} (ha : ∀ c ∈ a, p c) (ha' : ∀ c ∈ a', p c)
    (hb : ∀ c ∈ b.head?, ¬ p c) (hb' : ∀ c ∈ b'.head?, ¬ p c) (h : a ++ b = a' ++ b') : a = a' ∧ b = b' := by
  induction a generalizing a' with
  | nil =>
    cases a' with
    | nil => exact ⟨rfl, h⟩
    | cons c a' =>
      rw [List.nil_append] at h
      subst h
      exact absurd (ha' c (List.mem_cons_self ..)) (hb c rfl)
  | cons c a ih =>
    cases a' with
    | nil =>
      rw [List.nil_append] at h
      subst h
      exact absurd (ha c (List.mem_cons_self ..)) (hb' c rfl)
    | cons c' a' =>
      obtain ⟨rfl, hrest⟩ := List.cons.inj h
      obtain ⟨-, ha⟩ := List.forall_mem_cons.1 ha
      obtain ⟨-, ha'⟩ := List.forall_mem_cons.1 ha'
      obtain ⟨rfl, rfl⟩ := ih ha ha' hrest
      exact ⟨rfl, rfl⟩

namespace AnswerSources

open Yaml (Value)

/-! ## Paths as texts -/

/-- A key that can be told from what stands around it in a path. -/
def Step.Legible : Step → Prop
  | .key k => k ≠ "" ∧ '.' ∉ k.toList ∧ '[' ∉ k.toList
  | .index _ => True

theorem LeafAt.legible {v : Value} {place : List Nat} {path : List Step} {t : String} (h : LeafAt v place path t)
    (hnamed : v.EachMapping Named) (hplain : v.EachMapping Plain) : ∀ s ∈ path, s.Legible := by
  induction h with
  | single => simp
  | tagged _ ih => exact ih (Value.eachMapping_tagged.1 hnamed) (Value.eachMapping_tagged.1 hplain)
  | item hx _ ih =>
    have hmem := List.mem_of_getElem? hx
    rw [List.forall_mem_cons]
    exact ⟨trivial, ih (Value.eachMapping_sequence.1 hnamed _ hmem) (Value.eachMapping_sequence.1 hplain _ hmem)⟩
  | entry he hkey _ ih =>
    have hmem := List.mem_of_getElem? he
    obtain ⟨hself, hparts⟩ := Value.eachMapping_mapping.1 hnamed
    obtain ⟨hself', hparts'⟩ := Value.eachMapping_mapping.1 hplain
    obtain ⟨key, hkey', hne⟩ := hself _ hmem
    obtain rfl := Option.some.inj (hkey.symm.trans hkey')
    rw [List.forall_mem_cons]
    exact ⟨⟨hne, hself' _ hmem _ hkey⟩, ih (hparts _ hmem) (hparts' _ hmem)⟩

theorem LeafAt.key_ne {v : Value} {place : List Nat} {path : List Step} {t : String} (h : LeafAt v place path t)
    (hnamed : v.EachMapping Named) : Step.key "" ∉ path := by
  induction h with
  | single => simp
  | tagged _ ih => exact ih (Value.eachMapping_tagged.1 hnamed)
  | item hx _ ih =>
    have hrest := ih (Value.eachMapping_sequence.1 hnamed _ (List.mem_of_getElem? hx))
    simp [hrest]
  | entry he hkey _ ih =>
    have hmem := List.mem_of_getElem? he
    obtain ⟨hself, hparts⟩ := Value.eachMapping_mapping.1 hnamed
    obtain ⟨key, hkey', hne⟩ := hself _ hmem
    obtain rfl := Option.some.inj (hkey.symm.trans hkey')
    simp [ih (hparts _ hmem), hne.symm]

theorem toList_more_key (k : String) (r : List Step) :
    (pathText.more (.key k :: r)).toList = '.' :: (k.toList ++ (pathText.more r).toList) := by
  simp [pathText.more]

theorem toList_first_index (i : Nat) : (pathText.first (.index i)).toList = '[' :: (Nat.toDigits 10 i ++ [']']) := by
  simp [pathText.first, Nat.toString_eq_repr, Nat.toList_repr]

theorem toList_more_index (i : Nat) (r : List Step) :
    (pathText.more (.index i :: r)).toList = '[' :: (Nat.toDigits 10 i ++ ']' :: (pathText.more r).toList) := by
  simp [pathText.more, Nat.toString_eq_repr, Nat.toList_repr]

/-- A further step begins with a dot or a bracket. -/
theorem head_more (r : List Step) : ∀ c ∈ (pathText.more r).toList.head?, ¬ (c ≠ '.' ∧ c ≠ '[') := by
  intro c hc
  cases r with
  | nil => cases hc
  | cons s r =>
    cases s with
    | key k =>
      rw [toList_more_key] at hc
      cases hc
      simp
    | index i =>
      rw [toList_more_index] at hc
      cases hc
      simp

/-- A key ends where the next step begins. -/
theorem eq_of_key_append {k k' : String} {r r' : List Step} (hk : (Step.key k).Legible) (hk' : (Step.key k').Legible)
    (h : k.toList ++ (pathText.more r).toList = k'.toList ++ (pathText.more r').toList) :
    k = k' ∧ (pathText.more r).toList = (pathText.more r').toList := by
  have hstops : ∀ {k : String}, (Step.key k).Legible → ∀ c ∈ k.toList, c ≠ '.' ∧ c ≠ '[' := by
    rintro k ⟨-, hdot, hbracket⟩ c hc
    exact ⟨fun he => hdot (he ▸ hc), fun he => hbracket (he ▸ hc)⟩
  obtain ⟨hkeys, hrest⟩ := Text.eq_of_append_stop (hstops hk) (hstops hk') (head_more r) (head_more r') h
  exact ⟨String.toList_inj.1 hkeys, hrest⟩

/-- A position ends at its closing bracket. -/
theorem eq_of_index_append {i j : Nat} {m m' : List Char}
    (h : Nat.toDigits 10 i ++ ']' :: m = Nat.toDigits 10 j ++ ']' :: m') : i = j ∧ m = m' := by
  have hdigits : ∀ n : Nat, ']' ∉ Nat.toDigits 10 n := by
    intro n hn
    exact absurd (Nat.isDigit_of_mem_toDigits (by decide) (by decide) hn) (by decide)
  obtain ⟨hd, hm⟩ := Text.eq_of_append_cons (hdigits i) (hdigits j) h
  have hvalue := congrArg (Nat.ofDigitChars 10 · 0) hd
  simp only [Nat.ofDigitChars_toDigits (b := 10) (by decide) (by decide)] at hvalue
  exact ⟨hvalue, hm⟩

theorem more_injective {p q : List Step} (hp : ∀ s ∈ p, s.Legible) (hq : ∀ s ∈ q, s.Legible)
    (h : (pathText.more p).toList = (pathText.more q).toList) : p = q := by
  induction p generalizing q with
  | nil =>
    cases q with
    | nil => rfl
    | cons s q => cases s <;> simp [pathText.more] at h
  | cons s p ih =>
    obtain ⟨hs, hp'⟩ := List.forall_mem_cons.1 hp
    cases q with
    | nil => cases s <;> simp [pathText.more] at h
    | cons s' q =>
      obtain ⟨hs', hq'⟩ := List.forall_mem_cons.1 hq
      cases s with
      | key k =>
        cases s' with
        | key k' =>
          rw [toList_more_key, toList_more_key] at h
          obtain ⟨rfl, hrest⟩ := eq_of_key_append hs hs' (List.cons.inj h).2
          rw [ih hp' hq' hrest]
        | index j =>
          rw [toList_more_key, toList_more_index] at h
          exact absurd (List.cons.inj h).1 (by decide)
      | index i =>
        cases s' with
        | key k' =>
          rw [toList_more_index, toList_more_key] at h
          exact absurd (List.cons.inj h).1 (by decide)
        | index j =>
          rw [toList_more_index, toList_more_index] at h
          obtain ⟨rfl, hrest⟩ := eq_of_index_append (List.cons.inj h).2
          rw [ih hp' hq' hrest]

/-- Paths with the same text are the same. -/
theorem pathText_injective {p q : List Step} (hp : ∀ s ∈ p, s.Legible) (hq : ∀ s ∈ q, s.Legible)
    (h : pathText p = pathText q) : p = q := by
  -- the first step goes without its dot, so a key in front is told by not being empty and having no bracket
  have hfirst : ∀ {s : Step} {r : List Step}, s.Legible → pathText (s :: r) ≠ "" := by
    intro s r hs he
    have hl := congrArg String.toList he
    cases s with
    | key k => simp [pathText, pathText.first, hs.1] at hl
    | index i => simp [pathText, pathText.first] at hl
  cases p with
  | nil =>
    cases q with
    | nil => rfl
    | cons s q => exact absurd h.symm (hfirst (hq s (List.mem_cons_self ..)))
  | cons s p =>
    obtain ⟨hs, hp'⟩ := List.forall_mem_cons.1 hp
    cases q with
    | nil => exact absurd h (hfirst hs)
    | cons s' q =>
      obtain ⟨hs', hq'⟩ := List.forall_mem_cons.1 hq
      have hl := congrArg String.toList h
      simp only [pathText, String.toList_append] at hl
      have hkey : ∀ {k : String} {i : Nat} {m m' : List Char}, (Step.key k).Legible →
          k.toList ++ m ≠ (pathText.first (.index i)).toList ++ m' := by
        rintro k i m m' ⟨hne, -, hbracket⟩ he
        rw [toList_first_index] at he
        cases hk : k.toList with
        | nil => exact hne (String.toList_eq_nil_iff.1 hk)
        | cons c r =>
          rw [hk] at he hbracket
          exact hbracket ((List.cons.inj he).1 ▸ List.mem_cons_self ..)
      cases s with
      | key k =>
        cases s' with
        | key k' =>
          obtain ⟨rfl, hrest⟩ := eq_of_key_append hs hs' hl
          rw [more_injective hp' hq' hrest]
        | index j => exact absurd hl (hkey hs)
      | index i =>
        cases s' with
        | key k' => exact absurd hl.symm (hkey hs')
        | index j =>
          rw [toList_first_index, toList_first_index, List.cons_append, List.cons_append, List.append_assoc,
            List.append_assoc] at hl
          obtain ⟨rfl, hrest⟩ := eq_of_index_append (List.cons.inj hl).2
          rw [more_injective hp' hq' hrest]

/-! ## The whole document -/

/-- The text before a step with the step behind it. -/
def extend (before : String) : Step → String
  | .key k => if before = "" then k else before ++ "." ++ k
  | .index i => before ++ "[" ++ toString i ++ "]"

/-- A path in words, step by step. -/
def spelled (path : List Step) : String := path.foldl extend ""

theorem foldl_extend (r : List Step) {before : String} (h : before ≠ "") :
    r.foldl extend before = before ++ pathText.more r := by
  induction r generalizing before with
  | nil => simp [pathText.more]
  | cons s r ih =>
    have hnext : extend before s ≠ "" := by
      intro he
      have hl := congrArg String.toList he
      cases s <;> simp [extend, h] at hl
    rw [List.foldl_cons, ih hnext]
    cases s with
    | key k => simp only [extend, if_neg h, pathText.more, String.append_assoc]
    | index i => simp only [extend, pathText.more, String.append_assoc]

theorem spelled_eq_pathText {path : List Step} (h : Step.key "" ∉ path) : spelled path = pathText path := by
  cases path with
  | nil => rfl
  | cons s r =>
    have hfirst : extend "" s = pathText.first s := by
      cases s <;> simp [extend, pathText.first]
    have hne : pathText.first s ≠ "" := by
      intro he
      have hl := congrArg String.toList he
      cases s with
      | key k =>
        obtain rfl := String.toList_inj.1 hl
        exact h (List.mem_cons_self ..)
      | index i => simp [pathText.first] at hl
    rw [spelled, List.foldl_cons, hfirst, foldl_extend r hne, pathText]

/-- Where keys have different texts, a key leads to one entry. -/
theorem Distinct.index_eq {es : List (Value × Value)} (hd : Distinct es) {i j : Nat} {e e' : Value × Value}
    {key : String} (hi : es[i]? = some e) (hj : es[j]? = some e') (hkey : scalarText? e.1 = some key)
    (hkey' : scalarText? e'.1 = some key) :
    i = j := by
  obtain ⟨hi', rfl⟩ := List.getElem?_eq_some_iff.1 hi
  obtain ⟨hj', rfl⟩ := List.getElem?_eq_some_iff.1 hj
  unfold Distinct at hd
  rw [List.pairwise_iff_getElem] at hd
  rcases Nat.lt_trichotomy i j with hlt | rfl | hlt
  · exact absurd hkey' (hd i j hi' hj' hlt key hkey)
  · rfl
  · exact absurd hkey (hd j i hj' hi' hlt key hkey')

/-- A path leads to one place. -/
theorem LeafAt.unique {v : Value} {place place' : List Nat} {path : List Step} {t t' : String}
    (h : LeafAt v place path t) (hdistinct : v.EachMapping Distinct) (h' : LeafAt v place' path t') :
    place = place' ∧ t = t' := by
  induction h generalizing place' with
  | single hs ht =>
    obtain ⟨rfl, -, rfl⟩ := (leafAt_single hs ht).1 h'
    exact ⟨rfl, rfl⟩
  | tagged _ ih => exact ih (Value.eachMapping_tagged.1 hdistinct) (leafAt_tagged.1 h')
  | item hx _ ih =>
    cases h' with
    | item hx' hleaf' =>
      obtain rfl := Option.some.inj (hx.symm.trans hx')
      obtain ⟨rfl, rfl⟩ := ih (Value.eachMapping_sequence.1 hdistinct _ (List.mem_of_getElem? hx)) hleaf'
      exact ⟨rfl, rfl⟩
  | entry he hkey _ ih =>
    cases h' with
    | entry he' hkey' hleaf' =>
      obtain ⟨hself, hparts⟩ := Value.eachMapping_mapping.1 hdistinct
      obtain rfl := hself.index_eq he he' hkey hkey'
      cases he.symm.trans he'
      obtain ⟨rfl, rfl⟩ := ih (hparts _ (List.mem_of_getElem? he)) hleaf'
      exact ⟨rfl, rfl⟩

theorem flatten_isOk_iff {v : Value} : (∃ d, flatten v = .ok d) ↔ v.EachMapping Named ∧ ¬ v.untagged.IsSingle := by
  have hleaves := leaves_isOk_iff [] v
  simp only [true_implies] at hleaves
  rw [← hleaves, flatten, exists_bind_eq_ok]
  constructor
  · rintro ⟨ls, hls, -⟩
    exact ⟨ls, hls⟩
  · rintro ⟨ls, hls⟩
    exact ⟨ls, hls, _, rfl⟩

theorem readDocument_eq_ok {text : String} {v : Value} : readDocument text = .ok v ↔ Value.read? text = some v := by
  unfold readDocument
  split
  · rename_i v' hread
    rw [hread]
    constructor <;> rintro ⟨⟩ <;> rfl
  · rename_i hread
    rw [hread]
    exact iff_of_false nofun nofun

theorem parseValues_bind (text : String) : parseValues text = readDocument text >>= flatten := rfl

theorem parseValues_eq {text : String} {v : Value} (h : Value.read? text = some v) : parseValues text = flatten v := by
  rw [parseValues_bind, readDocument_eq_ok.2 h]
  rfl

/-- A values document whose keys have no dot and no bracket, and in each mapping different texts, can be
read if all its keys have texts and it is not itself a single value. Each leaf is then an answer under
its path, there are no others, and no two leaves have the same path. -/
theorem values_keep_leaves {text : String} {v : Value} (hread : Value.read? text = some v)
    (hplain : v.EachMapping Plain) (hdistinct : v.EachMapping Distinct) :
    ((∃ d, parseValues text = .ok d) ↔ v.EachMapping Named ∧ ¬ v.untagged.IsSingle) ∧
    ∀ d, parseValues text = .ok d →
      (∀ place path t, LeafAt v place path t → d.get? (spelled path) = some t) ∧
      (∀ k t, d.get? k = some t → ∃ place path, LeafAt v place path t ∧ spelled path = k) ∧
      ∀ place place' path path' t t', LeafAt v place path t → LeafAt v place' path' t' → spelled path = spelled path' →
        place = place' := by
  rw [parseValues_eq hread]
  refine ⟨flatten_isOk_iff, fun d hd => ?_⟩
  have hnamed := (flatten_isOk_iff.1 ⟨d, hd⟩).1
  obtain ⟨ls, hls, hd⟩ := bind_eq_ok hd
  cases hd
  have hmem := mem_leaves hls
  have hspelled : ∀ {place path t}, LeafAt v place path t → spelled path = pathText path := fun h =>
    spelled_eq_pathText (h.key_ne hnamed)
  have hpaths : ∀ {place place' path path' t t'}, LeafAt v place path t → LeafAt v place' path' t' →
      pathText path = pathText path' → path = path' := fun h h' =>
    pathText_injective (h.legible hnamed hplain) (h'.legible hnamed hplain)
  refine ⟨fun place path t h => ?_, fun k t hk => ?_, fun place place' path path' t t' h h' hsame => ?_⟩
  · rw [hspelled h]
    refine Dict.get?_insertMany_of_mem (List.mem_map.2 ⟨(path, t), (hmem path t).2 ⟨place, h⟩, rfl⟩) fun t' ht' => ?_
    obtain ⟨⟨path', t₁⟩, hl', he⟩ := List.mem_map.1 ht'
    obtain ⟨hsame, rfl⟩ := Prod.mk.inj he
    obtain ⟨place', h'⟩ := (hmem path' t₁).1 hl'
    obtain rfl := hpaths h h' hsame.symm
    exact (h'.unique hdistinct h).2
  · rcases Dict.mem_of_get?_insertMany hk with hk | hk
    · obtain ⟨⟨path, t₁⟩, hl, he⟩ := List.mem_map.1 hk
      obtain ⟨rfl, rfl⟩ := Prod.mk.inj he
      obtain ⟨place, h⟩ := (hmem path t₁).1 hl
      exact ⟨place, path, h, hspelled h⟩
    · cases hk
  · rw [hspelled h, hspelled h'] at hsame
    obtain rfl := hpaths h h' hsame
    exact (h.unique hdistinct h').1

/-- A list in a list, a null, a tag, and a key that ends as a position does. -/
def hosts : Value :=
  .mapping [(.text "a]0", .number (.int 6)),
    (.text "b", .sequence [.sequence [.null, .text "x"], .tagged "t" (.mapping [(.text "c", .text "y")])])]

theorem read_hosts : Value.read? "a]0: 6\nb:\n- [~, x]\n- !t\n  c: y\n" = some hosts := by cbv

/-- The three leaves of the document are found under their paths; one that is a number cannot be read. -/
theorem values_keep_leaves_hosts :
    (∃ d, parseValues "a]0: 6\nb:\n- [~, x]\n- !t\n  c: y\n" = .ok d ∧ d.get? "a]0" = some "6" ∧
      d.get? "b[0][1]" = some "x" ∧ d.get? "b[1].c" = some "y") ∧
    ¬ ∃ d, parseValues "6\n" = .ok d := by
  have heach : ∀ {P : List (Value × Value) → Prop}, (∀ x y, P [(.text "a]0", x), (.text "b", y)]) →
      P [(.text "c", .text "y")] → hosts.EachMapping P := by
    intro P houter hinner
    have hsingle : ∀ v : Value, v.IsSingle → v.EachMapping P := fun v => Value.eachMapping_single
    simp only [hosts, Value.eachMapping_mapping, Value.eachMapping_sequence, Value.eachMapping_tagged,
      List.forall_mem_cons, List.not_mem_nil, false_implies, implies_true, and_true]
    exact ⟨houter _ _, hsingle _ trivial, ⟨Value.eachMapping_null, hsingle _ trivial⟩, hinner, hsingle _ trivial⟩
  have hnumber : Value.read? "6\n" = some (.number (.int 6)) := by cbv
  obtain ⟨hok, hleaves⟩ :=
    values_keep_leaves read_hosts (heach (by simp [Plain, scalarText?]) (by simp [Plain, scalarText?]))
    (heach (by simp [Distinct, scalarText?]) (by simp [Distinct]))
  obtain ⟨d, hd⟩ := hok.2 ⟨heach (by simp [Named, IsKey, scalarText?]) (by simp [Named, IsKey, scalarText?]), id⟩
  obtain ⟨hkept, -⟩ := hleaves d hd
  obtain ⟨hrefused, -⟩ :=
    values_keep_leaves hnumber (Value.eachMapping_single trivial) (Value.eachMapping_single trivial)
  refine ⟨⟨d, hd, ?_, ?_, ?_⟩, fun h => (hrefused.1 h).2 trivial⟩
  · exact hkept [0] [.key "a]0"] "6" (.entry rfl rfl (.single trivial rfl))
  · exact hkept [1, 0, 1] [.key "b", .index 0, .index 1] "x"
      (.entry rfl rfl (.item rfl (.item rfl (.single trivial rfl))))
  · exact hkept [1, 1, 0] [.key "b", .index 1, .key "c"] "y"
      (.entry rfl rfl (.item rfl (.tagged (.entry rfl rfl (.single trivial rfl)))))

end AnswerSources

end MultiCluster
