/-
The order of versions. `Before` says of two versions which one stands first, part by part: numbers by value, a
pre-release before its release, identifiers one after the other, build metadata last. The comparison gives `lt` for
exactly those (`order_eq_lt`), and it tells any two versions apart (`order_eq_eq`): identifiers are compared with the
zeros in front of them, and from value and number of digits the digits follow (`Identifier.eq_of_value`).
-/
import MultiCluster.Proofs.Version.Strict
import Mathlib
namespace MultiCluster.Version

/-! ## What stands first -/

/-- Numbers stand before words, and among each other by value. With the same value fewer zeros in front stand first.
Words stand in the order of texts. -/
inductive Identifier.Before : Identifier → Identifier → Prop
  | smaller {m n w w' : Nat} : m < n → Before (.number m w) (.number n w')
  | shorter {n w w' : Nat} : w < w' → Before (.number n w) (.number n w')
  | numberWord {n w : Nat} {s : String} : Before (.number n w) (.word s)
  | word {s t : String} : s < t → Before (.word s) (.word t)

/-- The first identifiers that differ decide; if there are none, the text that has fewer stands first. -/
def IdentifiersBefore (s t : String) : Prop := List.Lex Identifier.Before (identifiers s) (identifiers t)

/-- The three numbers are the same. -/
def SameRelease (a b : Version) : Prop := a.major = b.major ∧ a.minor = b.minor ∧ a.patch = b.patch

inductive Before (a b : Version) : Prop
  | major : a.major < b.major → Before a b
  | minor : a.major = b.major → a.minor < b.minor → Before a b
  | patch : a.major = b.major → a.minor = b.minor → a.patch < b.patch → Before a b
  | preRelease : SameRelease a b → a.pre ≠ "" → b.pre = "" → Before a b
  | pre : SameRelease a b → a.pre ≠ "" → b.pre ≠ "" → IdentifiersBefore a.pre b.pre → Before a b
  | build : SameRelease a b → a.pre = b.pre → IdentifiersBefore a.build b.build → Before a b

/-! ## Comparisons of lists -/

theorem compareLex_eq_lt {α : Type} {cmp : α → α → Ordering} [Std.LawfulEqCmp cmp] {s t : List α} :
    List.compareLex cmp s t = .lt ↔ List.Lex (fun x y => cmp x y = .lt) s t := by
  induction s generalizing t with
  | nil => cases t <;> simp [List.compareLex_nil_nil, List.compareLex_nil_cons]
  | cons x s ih =>
    cases t with
    | nil => simp [List.compareLex_cons_nil]
    | cons y t =>
      rw [List.compareLex_cons_cons, Ordering.then_eq_lt, List.cons_lex_cons_iff, ih, Std.LawfulEqCmp.compare_eq_iff_eq]

/-! ## Identifiers -/

namespace Identifier

variable {i j : Identifier}

instance : Std.TransCmp order := inferInstanceAs <| Std.TransCmp <|
  compareLex (compareOn rank) (compareLex (compareOn value) (compareLex (compareOn width) (compareOn letters)))

theorem order_eq_eq : order i j = .eq ↔ i = j := by
  simp only [order, compareLex_eq_eq, compareOn, compare_eq_iff_eq]
  cases i <;> cases j <;> simp [rank, value, width, letters]

instance : Std.LawfulEqCmp order where
  eq_of_compare := order_eq_eq.1

theorem order_eq_lt : order i j = .lt ↔ Before i j := by
  simp only [order, compareLex, Ordering.then_eq_lt, compareOn, compare_lt_iff_lt, compare_eq_iff_eq]
  constructor
  · intro h
    cases i <;> cases j <;> simp only [rank, value, width, letters, lt_irrefl, true_and, false_or, or_false,
      and_false] at h
    case number.number m w n w' =>
      obtain h | ⟨rfl, h⟩ := h
      · exact .smaller h
      · exact .shorter h
    case number.word => exact .numberWord
    case word.number => simp at h
    case word.word => exact .word h
  · rintro h
    cases h <;> simp [rank, value, width, letters, *]

/-- The number that digits write. -/
def digitsValue (s : List Char) : Nat := s.foldl (fun v d => v * 10 + (d.toNat - 48)) 0

theorem digitsValue_append (s : List Char) (d : Char) :
    digitsValue (s ++ [d]) = digitsValue s * 10 + (d.toNat - 48) := by
  simp [digitsValue]

/-- From value and number of digits the digits follow. -/
theorem eq_of_value {s t : List Char} (hs : ∀ d ∈ s, isDigit d = true) (ht : ∀ d ∈ t, isDigit d = true)
    (hlength : s.length = t.length) (hvalue : digitsValue s = digitsValue t) : s = t := by
  -- the last digits are the remainders, and the induction is on what is in front of them
  induction s using List.reverseRecOn generalizing t with
  | nil => exact (List.length_eq_zero_iff.1 hlength.symm).symm
  | append_singleton s d ih =>
    obtain rfl | ⟨t, e, rfl⟩ := List.eq_nil_or_concat' t
    · simp at hlength
    · simp only [List.forall_mem_append, List.forall_mem_singleton] at hs ht
      have hd := isDigit_iff.1 hs.2
      have he := isDigit_iff.1 ht.2
      rw [digitsValue_append, digitsValue_append] at hvalue
      have hfront : s = t := ih hs.1 ht.1 (by simpa using hlength) (by omega)
      have hlast : d = e := Char.toNat_inj.1 (by omega)
      rw [hfront, hlast]

theorem ofChars_injective : Function.Injective ofChars := by
  intro s t h
  unfold ofChars at h
  split at h <;> split at h
  case isTrue.isTrue hs ht =>
    injection h with hvalue hlength
    exact eq_of_value (List.all_eq_true.1 hs) (List.all_eq_true.1 ht) hlength hvalue
  case isFalse.isFalse =>
    injection h with h
    exact String.ofList_injective h
  all_goals cases h

end Identifier

theorem identifiers_injective : Function.Injective identifiers := by
  intro s t h
  have hsplit := congrArg (Text.join ['.']) (Identifier.ofChars_injective.list_map h)
  rw [Text.join_split, Text.join_split] at hsplit
  exact String.toList_injective hsplit

theorem identifiersBefore_iff {s t : String} :
    IdentifiersBefore s t ↔ List.compareLex Identifier.order (identifiers s) (identifiers t) = .lt := by
  simp only [IdentifiersBefore, compareLex_eq_lt, Identifier.order_eq_lt]

theorem not_identifiersBefore_self (s : String) : ¬ IdentifiersBefore s s := by
  have hself : List.compareLex Identifier.order (identifiers s) (identifiers s) = .eq :=
    Std.LawfulEqCmp.compare_eq_iff_eq.2 rfl
  rw [identifiersBefore_iff, hself]
  decide

/-! ## Versions -/

variable {a b : Version}

theorem compareOn_isEmpty_eq_lt {f : Version → String} :
    compareOn (fun v => (f v).isEmpty) a b = .lt ↔ f a ≠ "" ∧ f b = "" := by
  rw [compareOn, compare_lt_iff_lt, Bool.lt_iff]
  simp

theorem compareOn_isEmpty_eq_eq {f : Version → String} :
    compareOn (fun v => (f v).isEmpty) a b = .eq ↔ (f a = "" ↔ f b = "") := by
  rw [compareOn, compare_eq_iff_eq, Bool.eq_iff_iff, String.isEmpty_iff, String.isEmpty_iff]

theorem byIdentifiers_eq_eq {f : Version → String} : byIdentifiers f a b = .eq ↔ f a = f b := by
  rw [byIdentifiers, Std.LawfulEqCmp.compare_eq_iff_eq]
  exact identifiers_injective.eq_iff

theorem byIdentifiers_eq_lt {f : Version → String} : byIdentifiers f a b = .lt ↔ IdentifiersBefore (f a) (f b) :=
  identifiersBefore_iff.symm

instance (f : Version → String) : Std.TransCmp (byIdentifiers f) where
  eq_swap {_ _} := @Std.OrientedCmp.eq_swap _ (List.compareLex Identifier.order) _ _ _
  isLE_trans {_ _ _} := @Std.TransCmp.isLE_trans _ (List.compareLex Identifier.order) _ _ _ _

instance : Std.TransCmp order := inferInstanceAs <| Std.TransCmp <|
  compareLex (compareOn major) <| compareLex (compareOn minor) <| compareLex (compareOn patch) <|
    compareLex (compareOn fun v => v.pre.isEmpty) <| compareLex (byIdentifiers pre) (byIdentifiers build)

/-- No two versions are equally high. -/
theorem order_eq_eq : order a b = .eq ↔ a = b := by
  simp only [order, compareLex_eq_eq, compareOn_isEmpty_eq_eq, byIdentifiers_eq_eq]
  simp only [compareOn, compare_eq_iff_eq]
  constructor
  · rintro ⟨hmajor, hminor, hpatch, -, hpre, hbuild⟩
    cases a
    cases b
    simp_all
  · rintro rfl
    simp

theorem order_eq_lt : order a b = .lt ↔ Before a b := by
  simp only [order, compareLex, Ordering.then_eq_lt, compareOn_isEmpty_eq_lt, compareOn_isEmpty_eq_eq,
    byIdentifiers_eq_lt, byIdentifiers_eq_eq]
  simp only [compareOn, compare_lt_iff_lt, compare_eq_iff_eq]
  constructor
  · rintro (h | ⟨h, h' | ⟨h', h'' | ⟨h'', ⟨hpre, hpre'⟩ | ⟨hempty, hbefore | ⟨hpre, hbefore⟩⟩⟩⟩⟩)
    · exact .major h
    · exact .minor h h'
    · exact .patch h h' h''
    · exact .preRelease ⟨h, h', h''⟩ hpre hpre'
    · have hne : a.pre ≠ "" := by
        intro hpre
        rw [hpre, hempty.1 hpre] at hbefore
        exact not_identifiersBefore_self "" hbefore
      exact .pre ⟨h, h', h''⟩ hne (mt hempty.2 hne) hbefore
    · exact .build ⟨h, h', h''⟩ hpre hbefore
  · rintro (h | ⟨h, h'⟩ | ⟨h, h', h''⟩ | ⟨⟨h, h', h''⟩, hpre, hpre'⟩ | ⟨⟨h, h', h''⟩, hpre, hpre', hbefore⟩ |
      ⟨⟨h, h', h''⟩, hpre, hbefore⟩) <;> simp_all

theorem order_swap : order a b = (order b a).swap := Std.OrientedCmp.eq_swap

theorem le_iff : a.le b = true ↔ Before a b ∨ a = b := by
  rw [← order_eq_lt, ← order_eq_eq, le, bne_iff_ne]
  cases order a b <;> decide

theorem le_trans (a b c : Version) : a.le b → b.le c → a.le c := by
  simp only [le, bne_iff_ne, ← Ordering.isLE_iff_ne_gt]
  exact Std.TransCmp.isLE_trans

theorem le_total (a b : Version) : a.le b || b.le a := by
  rw [le, le, @order_swap a b]
  cases order b a <;> decide

theorem le_self (a : Version) : a.le a := le_iff.2 (.inr rfl)

end MultiCluster.Version
