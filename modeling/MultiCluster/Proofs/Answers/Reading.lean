/-
What settings and documents give, and why they are refused. The last word counts (`LastGiven`): of
settings for a key the last (`pairs_parseSetting`), of an answers document the last entry
(`get?_answersOf`), of a values document the last leaf (`get?_flatten`). A file gives what its document
gives (`get?_fromFile`).
-/
import MultiCluster.Proofs.Answers.Flattening
import Mathlib
namespace MultiCluster

/-! ## The last word -/

section LastGiven

variable {α β : Type} {gives : α → String → String → Prop} {k t : String}

/-- Of the items that say anything of the key, the last gives the text. -/
def LastGiven (gives : α → String → String → Prop) (l : List α) (k t : String) : Prop :=
  ∃ earlier x later, l = earlier ++ x :: later ∧ gives x k t ∧ ∀ y ∈ later, ∀ t', ¬ gives y k t'

theorem not_lastGiven_nil : ¬ LastGiven gives [] k t := by
  rintro ⟨earlier, x, later, h, -⟩
  simp at h

theorem lastGiven_cons {x : α} {l : List α} :
    LastGiven gives (x :: l) k t ↔ LastGiven gives l k t ∨ (∀ y ∈ l, ∀ t', ¬ gives y k t') ∧ gives x k t := by
  constructor
  · rintro ⟨earlier, y, later, h, hy, hlater⟩
    cases earlier with
    | nil =>
      cases h
      exact .inr ⟨hlater, hy⟩
    | cons z earlier =>
      cases h
      exact .inl ⟨earlier, y, later, rfl, hy, hlater⟩
  · rintro (⟨earlier, y, later, rfl, hy, hlater⟩ | ⟨hl, hx⟩)
    · exact ⟨x :: earlier, y, later, rfl, hy, hlater⟩
    · exact ⟨[], x, l, rfl, hx, hl⟩

theorem exists_lastGiven {l : List α} : (∃ t, LastGiven gives l k t) ↔ ∃ x ∈ l, ∃ t, gives x k t := by
  induction l with
  | nil => simp [not_lastGiven_nil]
  | cons x l ih =>
    simp only [lastGiven_cons, exists_or, ih, List.exists_mem_cons_iff]
    constructor
    · rintro (h | ⟨t, -, hx⟩)
      · exact .inr h
      · exact .inl ⟨t, hx⟩
    · rintro (⟨t, hx⟩ | h)
      · -- the first item has the last word only where no other says anything
        by_cases hl : ∃ y ∈ l, ∃ t, gives y k t
        · exact .inl hl
        · exact .inr ⟨t, fun y hy t' hs => hl ⟨y, hy, t', hs⟩, hx⟩
      · exact .inl h

theorem not_lastGiven_iff {l : List α} : (∀ t, ¬ LastGiven gives l k t) ↔ ∀ x ∈ l, ∀ t, ¬ gives x k t := by
  rw [← not_exists, exists_lastGiven]
  simp

theorem lastGiven_map {f : β → α} {l : List β} :
    LastGiven gives (l.map f) k t ↔ LastGiven (fun x => gives (f x)) l k t := by
  induction l with
  | nil => exact iff_of_false not_lastGiven_nil not_lastGiven_nil
  | cons x l ih => rw [List.map_cons, lastGiven_cons, lastGiven_cons, ih, List.forall_mem_map]

/-- The pair is of the key and the text. -/
def Pairs (e : String × String) (k t : String) : Prop := e = (k, t)

/-- A list of pairs has the last word of the list that it is read from. -/
theorem lastGiven_mapM {ε : Type} {f : α → Except ε (String × String)} {l : List α} {r : List (String × String)}
    (h : l.mapM f = .ok r) (hgives : ∀ x e, f x = .ok e → ∀ k t, Pairs e k t ↔ gives x k t) :
    LastGiven Pairs r k t ↔ LastGiven gives l k t := by
  induction l generalizing r t with
  | nil =>
    cases h
    exact iff_of_false not_lastGiven_nil not_lastGiven_nil
  | cons x l ih =>
    obtain ⟨e, es, he, hes, rfl⟩ := mapM_cons_eq_ok h
    have hnone : (∀ e ∈ es, ∀ t', ¬ Pairs e k t') ↔ ∀ y ∈ l, ∀ t', ¬ gives y k t' := by
      rw [← not_lastGiven_iff, ← not_lastGiven_iff]
      exact forall_congr' fun t' => not_congr (ih hes)
    rw [lastGiven_cons, lastGiven_cons, ih hes, hnone, hgives x e he]

end LastGiven

theorem Dict.get?_insertMany_eq_some {d : Dict String} {l : List (String × String)} {k t : String} :
    (d.insertMany l).get? k = some t ↔ LastGiven Pairs l k t ∨ (∀ t', ¬ LastGiven Pairs l k t') ∧
    d.get? k = some t := by
  rw [not_lastGiven_iff]
  induction l generalizing d with
  | nil => simp [not_lastGiven_nil, insertMany]
  | cons e l ih =>
    obtain ⟨k', t'⟩ := e
    have hpair : ∀ t, Pairs (k', t') k t ↔ k' = k ∧ t' = t := fun t => Prod.mk_inj
    rw [insertMany_cons, ih, lastGiven_cons, or_assoc, get?_insert, List.forall_mem_cons]
    apply or_congr_right
    simp only [hpair]
    by_cases hk : k' = k
    · simp [hk]
    · simp [hk]

theorem Dict.get?_ofList_eq_some {l : List (String × String)} {k t : String} :
    (Dict.ofList l).get? k = some t ↔ LastGiven Pairs l k t := by
  rw [ofList, get?_insertMany_eq_some]
  simp

theorem Dict.lastGiven_toList {d : Dict String} {k t : String} : LastGiven Pairs d.toList k t ↔ d.get? k = some t := by
  have hmem : ∀ {t}, LastGiven Pairs d.toList k t → d.get? k = some t := by
    rintro t ⟨earlier, x, later, hl, rfl, -⟩
    rw [get?_eq_some_iff, hl]
    simp
  refine ⟨hmem, fun h => ?_⟩
  have hsome : ∃ t', LastGiven Pairs d.toList k t' := exists_lastGiven.2 ⟨(k, t), get?_eq_some_iff.1 h, t, rfl⟩
  obtain ⟨t', ht'⟩ := hsome
  obtain rfl := Option.some.inj ((hmem ht').symm.trans h)
  exact ht'

open Yaml (Value)

/-- The file at the path holds the document. -/
def Files.Holds (files : Files) (path : String) (v : Value) : Prop :=
  ∃ text, files.readText path = .ok text ∧ Value.read? text = some v

namespace AnswerSources

/-! ## Settings -/

/-- The setting sets the key to the text, its first equals sign being between them. -/
def Sets (s k t : String) : Prop := s = k ++ "=" ++ t ∧ '=' ∉ k.toList

def IsSetting (s : String) : Prop := ∃ k t, Sets s k t ∧ k ≠ ""

theorem sets_iff_cut {s k t : String} : Sets s k t ↔ Text.cut? '=' s.toList = some (k.toList, t.toList) := by
  rw [Text.cut?_eq_some_iff, Sets, ← String.toList_inj]
  simp

theorem Sets.unique {s k k' t t' : String} (h : Sets s k t) (h' : Sets s k' t') : k = k' ∧ t = t' := by
  rw [sets_iff_cut] at h h'
  obtain ⟨hk, ht⟩ := Prod.mk.inj (Option.some.inj (h.symm.trans h'))
  exact ⟨String.toList_inj.1 hk, String.toList_inj.1 ht⟩

theorem parseSetting_eq_ok {s k t : String} : parseSetting s = .ok (k, t) ↔ Sets s k t ∧ k ≠ "" := by
  rw [sets_iff_cut]
  unfold parseSetting
  split
  · rename_i c key value hcut
    rw [hcut]
    constructor
    · intro h
      cases h
      simp
    · rintro ⟨h, -⟩
      obtain ⟨hk, ht⟩ := Prod.mk.inj (Option.some.inj h)
      rw [hk, ht, String.ofList_toList, String.ofList_toList]
  · rename_i hcut
    constructor
    · intro h
      cases h
    · rintro ⟨h, hne⟩
      cases hk : k.toList with
      | nil => exact absurd (String.toList_eq_nil_iff.1 hk) hne
      | cons c key => exact absurd (hk ▸ h) (hcut c key t.toList)

theorem parseSetting_isOk_iff {s : String} : (∃ e, parseSetting s = .ok e) ↔ IsSetting s := by
  constructor
  · rintro ⟨⟨k, t⟩, h⟩
    exact ⟨k, t, parseSetting_eq_ok.1 h⟩
  · rintro ⟨k, t, h⟩
    exact ⟨(k, t), parseSetting_eq_ok.2 h⟩

theorem parseSetting_eq_error {s : String} {e : CommandFault} :
    parseSetting s = .error e ↔
    ¬ IsSetting s ∧ e = .invalidArgument ("invalid --set '" ++ s ++ "', expected KEY=VALUE") := by
  rw [← parseSetting_isOk_iff]
  unfold parseSetting
  split
  · simp
  · simp [eq_comm]

/-- What a setting is read as is what it sets. -/
theorem pairs_parseSetting {s : String} {e : String × String} (h : parseSetting s = .ok e) (k t : String) :
    Pairs e k t ↔ Sets s k t := by
  obtain ⟨k', t'⟩ := e
  have hsets := (parseSetting_eq_ok.1 h).1
  constructor
  · rintro ⟨⟩
    exact hsets
  · intro h'
    obtain ⟨rfl, rfl⟩ := hsets.unique h'
    rfl

/-! ## Answers documents -/

/-- The key has the first text and the value the second. -/
def Entry (e : Value × Value) (k t : String) : Prop := scalarText? e.1 = some k ∧ scalarText? e.2 = some t

def IsEntry (e : Value × Value) : Prop := IsKey e.1 ∧ ∃ t, scalarText? e.2 = some t

/-- Why an entry cannot be read: its key, or else its value. -/
inductive EntryFault (e : Value × Value) : CommandFault → Prop
  | key : ¬ IsKey e.1 → EntryFault e (invalidKey e.1)
  | value {key : String} : scalarText? e.1 = some key → key ≠ "" → (∀ t, scalarText? e.2 ≠ some t) →
      EntryFault e (.invalidArgument ("answer '" ++ key ++ "' must be a single value"))

theorem readEntry_eq_ok {e : Value × Value} {k t : String} : readEntry e = .ok (k, t) ↔ k ≠ "" ∧ Entry e k t := by
  unfold readEntry Entry
  constructor
  · intro h
    obtain ⟨key, hkey, h⟩ := bind_eq_ok h
    obtain ⟨hkey, hne⟩ := keyText_eq_ok.1 hkey
    split at h
    · rename_i ht
      cases h
      exact ⟨hne, hkey, ht⟩
    · cases h
  · rintro ⟨hne, hkey, ht⟩
    rw [keyText_eq_ok.2 ⟨hkey, hne⟩, ht]
    rfl

theorem readEntry_isOk_iff {e : Value × Value} : (∃ r, readEntry e = .ok r) ↔ IsEntry e := by
  constructor
  · rintro ⟨⟨k, t⟩, h⟩
    obtain ⟨hne, hk, ht⟩ := readEntry_eq_ok.1 h
    exact ⟨⟨k, hk, hne⟩, t, ht⟩
  · rintro ⟨⟨k, hk, hne⟩, t, ht⟩
    exact ⟨(k, t), readEntry_eq_ok.2 ⟨hne, hk, ht⟩⟩

theorem readEntry_eq_error {e : Value × Value} {f : CommandFault} : readEntry e = .error f ↔ EntryFault e f := by
  rw [readEntry, bind_eq_error]
  constructor
  · rintro (h | ⟨key, hkey, h⟩)
    · obtain ⟨hnot, rfl⟩ := keyText_eq_error.1 h
      exact .key hnot
    · obtain ⟨hkey, hne⟩ := keyText_eq_ok.1 hkey
      split at h
      · cases h
      · rename_i hnone
        cases h
        exact .value hkey hne fun t ht => Option.some_ne_none t (ht.symm.trans hnone)
  · intro h
    cases h with
    | key hnot => exact .inl (keyText_eq_error.2 ⟨hnot, rfl⟩)
    | value hkey hne hnone =>
      refine .inr ⟨_, keyText_eq_ok.2 ⟨hkey, hne⟩, ?_⟩
      rw [Option.eq_none_iff_forall_ne_some.2 hnone]
      rfl

/-- What an entry is read as is what it has. -/
theorem pairs_readEntry {e : Value × Value} {r : String × String} (h : readEntry e = .ok r) (k t : String) :
    Pairs r k t ↔ Entry e k t := by
  obtain ⟨k', t'⟩ := r
  obtain ⟨-, hk, ht⟩ := readEntry_eq_ok.1 h
  rw [Entry, hk, ht, Pairs]
  simp

/-- A document that is empty or a map of keys to single values. -/
inductive IsAnswers : Value → Prop
  | empty : IsAnswers .null
  | map {es : List (Value × Value)} : (∀ e ∈ es, IsEntry e) → IsAnswers (.mapping es)

/-- Why a document is not one of answers; of the entries of a map, the first that cannot be read. -/
inductive AnswersFault : Value → CommandFault → Prop
  | notMap {v : Value} : v ≠ .null → (∀ es, v ≠ .mapping es) →
      AnswersFault v (.invalidArgument "answers file must be a map of key to value")
  | entry {es : List (Value × Value)} {f : CommandFault} : First IsEntry (fun e => EntryFault e f) es →
      AnswersFault (.mapping es) f

/-- The document answers the key with the text, in the last entry for it. -/
def Answers (v : Value) (k t : String) : Prop := ∃ es, v = .mapping es ∧ LastGiven Entry es k t

theorem entries_isOk_iff {v : Value} : (∃ r, entries v = .ok r) ↔ IsAnswers v := by
  unfold entries
  split
  · exact iff_of_true ⟨[], rfl⟩ .empty
  · rename_i es
    rw [exists_mapM_eq_ok]
    simp only [readEntry_isOk_iff]
    constructor
    · exact .map
    · rintro (_ | h)
      exact h
  · rename_i hnull hmap
    refine iff_of_false (by rintro ⟨r, ⟨⟩⟩) fun h => ?_
    cases h with
    | empty => exact hnull rfl
    | map _ => exact hmap _ rfl

theorem entries_eq_error {v : Value} {f : CommandFault} : entries v = .error f ↔ AnswersFault v f := by
  unfold entries
  split
  · refine iff_of_false nofun fun h => ?_
    cases h with
    | notMap hnull => exact hnull rfl
  · rename_i es
    rw [mapM_eq_error]
    simp only [readEntry_isOk_iff, readEntry_eq_error]
    constructor
    · exact .entry
    · intro h
      cases h with
      | notMap _ hmap => exact absurd rfl (hmap es)
      | entry h => exact h
  · rename_i hnull hmap
    constructor
    · rintro ⟨⟩
      exact .notMap hnull hmap
    · intro h
      cases h with
      | notMap => rfl
      | entry _ => exact absurd rfl (hmap _)

theorem lastGiven_entries {v : Value} {r : List (String × String)} (h : entries v = .ok r) (k t : String) :
    LastGiven Pairs r k t ↔ Answers v k t := by
  unfold entries at h
  split at h
  · cases h
    exact iff_of_false not_lastGiven_nil (by rintro ⟨es, ⟨⟩, -⟩)
  · rename_i es
    rw [lastGiven_mapM h fun e r => pairs_readEntry]
    constructor
    · intro hlast
      exact ⟨es, rfl, hlast⟩
    · rintro ⟨es', he, hlast⟩
      cases he
      exact hlast
  · cases h

/-- An answers document as a map. -/
def answersOf (v : Value) : Except CommandFault FlatAnswers := do return Dict.ofList (← entries v)

theorem parseAnswers_bind (text : String) : parseAnswers text = readDocument text >>= answersOf := rfl

theorem answersOf_isOk_iff {v : Value} : (∃ d, answersOf v = .ok d) ↔ IsAnswers v := by
  rw [← entries_isOk_iff, answersOf, exists_bind_eq_ok]
  constructor
  · rintro ⟨r, hr, -⟩
    exact ⟨r, hr⟩
  · rintro ⟨r, hr⟩
    exact ⟨r, hr, _, rfl⟩

theorem answersOf_eq_error {v : Value} {e : CommandFault} : answersOf v = .error e ↔ AnswersFault v e := by
  rw [← entries_eq_error, answersOf, bind_eq_error]
  constructor
  · rintro (h | ⟨r, -, h⟩)
    · exact h
    · cases h
  · exact .inl

theorem get?_answersOf {v : Value} {d : FlatAnswers} (h : answersOf v = .ok d) (k t : String) :
    d.get? k = some t ↔ Answers v k t := by
  obtain ⟨r, hr, hd⟩ := bind_eq_ok h
  cases hd
  rw [Dict.get?_ofList_eq_some, lastGiven_entries hr]

/-! ## Values documents -/

/-- A document whose keys all have texts and that is not itself a single value. -/
def IsValues (v : Value) : Prop := v.EachMapping Named ∧ ¬ v.untagged.IsSingle

/-- The leaf whose path is the key, the last in the document if there are several, has the text. -/
def LastLeaf (v : Value) (k t : String) : Prop :=
  ∃ place path, LeafAt v place path t ∧ spelled path = k ∧
    ∀ place' path' t', LeafAt v place' path' t' → spelled path' = k → place' ≤ place

theorem flatten_eq_error {v : Value} {e : CommandFault} : flatten v = .error e ↔ LeavesFault [] v e := by
  rw [← leaves_eq_error, flatten, bind_eq_error]
  constructor
  · rintro (h | ⟨ls, -, h⟩)
    · exact h
    · cases h
  · exact .inl

theorem get?_flatten {v : Value} {d : FlatAnswers} (h : flatten v = .ok d) (k t : String) :
    d.get? k = some t ↔ LastLeaf v k t := by
  have hnamed := (flatten_isOk_iff.1 ⟨d, h⟩).1
  obtain ⟨ls, hls, hd⟩ := bind_eq_ok h
  cases hd
  obtain ⟨found, rfl, hmem, hsorted⟩ := leaves_lists v hls
  have hspelled : ∀ {place path t}, (place, path, t) ∈ found → spelled path = pathText path := fun hl =>
    spelled_eq_pathText (((hmem _).1 hl).key_ne hnamed)
  rw [List.map_map, Dict.get?_ofList_eq_some, lastGiven_map]
  constructor
  · rintro ⟨earlier, ⟨place, path, u⟩, later, rfl, he, hlater⟩
    cases he
    have hself := (hmem (place, path, u)).1 (by simp)
    refine ⟨place, path, hself, spelled_eq_pathText (hself.key_ne hnamed), fun place' path' t' hleaf hsame => ?_⟩
    -- the leaves are found in the order of their places, so one with the same path is not behind
    obtain ⟨-, hafter, hbefore⟩ := List.pairwise_append.1 hsorted
    have hin := (hmem (place', path', t')).2 hleaf
    rcases List.mem_append.1 hin with hin' | hin'
    · exact le_of_lt (hbefore _ hin' _ (List.mem_cons_self ..))
    · rcases List.mem_cons.1 hin' with he | hin'
      · cases he
        exact le_refl _
      · refine absurd ?_ (hlater _ hin' t')
        show (pathText path', t') = (pathText path, t')
        rw [← hspelled hin, hsame]
        rfl
  · rintro ⟨place, path, hself, rfl, hlast⟩
    have hin := (hmem (place, path, t)).2 hself
    obtain ⟨earlier, later, rfl⟩ := List.append_of_mem hin
    refine ⟨earlier, _, later, rfl, Prod.ext (hspelled hin).symm rfl, ?_⟩
    rintro ⟨place', path', t'⟩ hin' t'' he
    -- what is found behind is at a later place, where no leaf has this path
    obtain ⟨-, hafter, -⟩ := List.pairwise_append.1 hsorted
    have hlt := (List.pairwise_cons.1 hafter).1 _ hin'
    have hin'' : (place', path', t') ∈ earlier ++ (place, path, t) :: later := by simp [hin']
    have hle := hlast place' path' t' ((hmem _).1 hin'') ((hspelled hin'').trans (Prod.mk.inj he).1)
    exact absurd hlt (not_lt_of_ge hle)

/-! ## Files -/

/-- Why the answers of a file cannot be had. -/
inductive FileFault (files : Files) (what path : String) (refused : Value → CommandFault → Prop) : CommandFault → Prop
  | unreadable {e : ReadFault} : files.readText path = .error e → FileFault files what path refused
      (.invalidArgument ("failed to read " ++ what ++ " file '" ++ path ++ "': " ++ e.message))
  | unparsed {text : String} : files.readText path = .ok text → Value.read? text = none →
      FileFault files what path refused (.invalidArgument "invalid JSON or YAML")
  | refused {v : Value} {e : CommandFault} : files.Holds path v → refused v e → FileFault files what path refused e

theorem readDocument_eq_error {text : String} {e : CommandFault} :
    readDocument text = .error e ↔ Value.read? text = none ∧ e = .invalidArgument "invalid JSON or YAML" := by
  unfold readDocument
  split
  · simp [*]
  · simp [*, eq_comm]

section File

variable {files : Files} {what : String} {parse : String → Except CommandFault FlatAnswers}
variable {document : Value → Except CommandFault FlatAnswers}
  (hparse : ∀ text, parse text = readDocument text >>= document)
include hparse

theorem fromFile_some_eq_ok {path : String} {d : FlatAnswers} :
    fromFile files what parse (some path) = .ok d ↔ ∃ v, files.Holds path v ∧ document v = .ok d := by
  unfold fromFile readFile
  constructor
  · intro h
    obtain ⟨text, htext, h⟩ := bind_eq_ok h
    rw [hparse] at h
    obtain ⟨v, hv, hd⟩ := bind_eq_ok h
    exact ⟨v, ⟨text, mapError_eq_ok.1 htext, readDocument_eq_ok.1 hv⟩, hd⟩
  · rintro ⟨v, ⟨text, htext, hv⟩, hd⟩
    show _ >>= _ = _
    rw [mapError_eq_ok.2 htext]
    show parse text = _
    rw [hparse, readDocument_eq_ok.2 hv]
    exact hd

theorem fromFile_isOk_iff {file : Option String} : (∃ d, fromFile files what parse file = .ok d) ↔
    ∀ path ∈ file, ∃ v, files.Holds path v ∧ ∃ d, document v = .ok d := by
  cases file with
  | none => exact iff_of_true ⟨∅, rfl⟩ (by simp)
  | some path =>
    simp only [fromFile_some_eq_ok hparse, Option.mem_some_iff, forall_eq']
    constructor
    · rintro ⟨d, v, hv, hd⟩
      exact ⟨v, hv, d, hd⟩
    · rintro ⟨v, hv, d, hd⟩
      exact ⟨d, v, hv, hd⟩

theorem fromFile_eq_error {refused : Value → CommandFault → Prop}
    (hrefused : ∀ v e, document v = .error e ↔ refused v e) {file : Option String} {e : CommandFault} :
    fromFile files what parse file = .error e ↔ ∃ path ∈ file, FileFault files what path refused e := by
  cases file with
  | none => exact iff_of_false nofun (by simp)
  | some path =>
    simp only [Option.mem_some_iff, exists_eq_left']
    unfold fromFile readFile
    rw [bind_eq_error, mapError_eq_error]
    constructor
    · rintro (⟨e', hread, rfl⟩ | ⟨text, htext, h⟩)
      · exact .unreadable hread
      · have htext := mapError_eq_ok.1 htext
        rw [hparse, bind_eq_error, readDocument_eq_error] at h
        rcases h with ⟨hnone, rfl⟩ | ⟨v, hv, h⟩
        · exact .unparsed htext hnone
        · exact .refused ⟨text, htext, readDocument_eq_ok.1 hv⟩ ((hrefused v e).1 h)
    · intro h
      cases h with
      | unreadable hread => exact .inl ⟨_, hread, rfl⟩
      | unparsed htext hnone =>
        refine .inr ⟨_, mapError_eq_ok.2 htext, ?_⟩
        rw [hparse, bind_eq_error]
        exact .inl (readDocument_eq_error.2 ⟨hnone, rfl⟩)
      | refused hv h =>
        obtain ⟨text, htext, hv⟩ := hv
        refine .inr ⟨text, mapError_eq_ok.2 htext, ?_⟩
        rw [hparse, bind_eq_error]
        exact .inr ⟨_, readDocument_eq_ok.2 hv, (hrefused _ e).2 h⟩

theorem get?_fromFile {gives : Value → String → String → Prop}
    (hgives : ∀ v d, document v = .ok d → ∀ k t, d.get? k = some t ↔ gives v k t) {file : Option String}
    {d : FlatAnswers} (h : fromFile files what parse file = .ok d) (k t : String) :
    d.get? k = some t ↔ ∃ path ∈ file, ∃ v, files.Holds path v ∧ gives v k t := by
  cases file with
  | none =>
    cases h
    simp
  | some path =>
    obtain ⟨v, hv, hd⟩ := (fromFile_some_eq_ok hparse).1 h
    rw [hgives v d hd]
    simp only [Option.mem_some_iff, exists_eq_left']
    constructor
    · intro hg
      exact ⟨v, hv, hg⟩
    · rintro ⟨v', ⟨text', htext', hv'⟩, hg⟩
      -- the file holds one document
      obtain ⟨text, htext, hv⟩ := hv
      obtain rfl := Except.ok.inj (htext.symm.trans htext')
      obtain rfl := Option.some.inj (hv.symm.trans hv')
      exact hg

end File

end AnswerSources

end MultiCluster
