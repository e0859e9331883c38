/-
Text decoded from its own bytes. The bytes of a character say how many they are, so the first character
is read off the front whatever follows (`decodeFirst_utf8`), and what a text was encoded to is decoded to
it (`decode?_bytesOf`).
-/
import MultiCluster.Proofs.Url.Percent
import MultiCluster.Text.Utf8
import Mathlib
namespace MultiCluster.Text

/-! ## Lead bytes -/

section Lead

variable {b : UInt8}

theorem leadShape_one (h : b.toNat < 0x80) : leadShape b = some (0, 0, 0) := if_pos h

theorem leadShape_two (h : 0xC2 ≤ b.toNat) (h' : b.toNat ≤ 0xDF) : leadShape b = some (1, 0x80, 0xBF) := by
  unfold leadShape
  rw [if_neg (by omega), if_pos ⟨h, h'⟩]

theorem leadShape_three (h : 0xE0 ≤ b.toNat) (h' : b.toNat ≤ 0xEF) :
    leadShape b = some (2, if b.toNat = 0xE0 then 0xA0 else 0x80, if b.toNat = 0xED then 0x9F else 0xBF) := by
  unfold leadShape
  rw [if_neg (by omega), if_neg (by omega)]
  split
  · rw [if_neg (by omega)]
  · split
    · rfl
    · rw [if_pos (by omega)]

theorem leadShape_four (h : 0xF0 ≤ b.toNat) (h' : b.toNat ≤ 0xF4) :
    leadShape b = some (3, if b.toNat = 0xF0 then 0x90 else 0x80, if b.toNat = 0xF4 then 0x8F else 0xBF) := by
  unfold leadShape
  rw [if_neg (by omega), if_neg (by omega), if_neg (by omega), if_neg (by omega), if_neg (by omega)]
  split
  · rw [if_neg (by omega)]
  · split
    · rfl
    · rw [if_pos (by omega)]

end Lead

/-! ## Characters -/

theorem takeTails_cons {k v : Nat} {b : UInt8} {bs : List UInt8} (h : b.toNat / 64 = 2) :
    takeTails (k + 1) v (b :: bs) = takeTails k (v * 64 + b.toNat % 64) bs := by
  rw [takeTails, if_pos (by simp [isTail, h])]

/-- A character is decoded where the tail bytes are as its lead byte asks for. -/
theorem decodeFirst_tails {b t : UInt8} {k lo hi v : Nat} {bs r : List UInt8}
    (hshape : leadShape b = some (k + 1, lo, hi)) (hlo : lo ≤ t.toNat) (hhi : t.toNat ≤ hi)
    (htails : takeTails k (leadBits (k + 1) b * 64 + t.toNat % 64) bs = (v, 0, r)) :
    decodeFirst b (t :: bs) = (some (Char.ofNat v), r) := by
  unfold decodeFirst
  rw [hshape]
  simp only [hlo, hhi, and_self, if_true, Nat.add_sub_cancel, htails]

theorem toNat_byte {n : Nat} (h : n < 256) : (UInt8.ofNat n).toNat = n := by
  rw [UInt8.toNat_ofNat', Nat.mod_eq_of_lt h]

theorem decodeFirst_one {v : Nat} (h : v < 0x80) (r : List UInt8) :
    decodeFirst (UInt8.ofNat v) r = (some (Char.ofNat v), r) := by
  have hb := toNat_byte (n := v) (by omega)
  unfold decodeFirst
  rw [leadShape_one (by omega)]
  show (some (Char.ofNat (UInt8.ofNat v).toNat), r) = _
  rw [hb]

theorem decodeFirst_two {v : Nat} (h : 0x80 ≤ v) (h' : v < 0x800) (r : List UInt8) :
    decodeFirst (UInt8.ofNat (v / 64 % 32 + 192)) (UInt8.ofNat (v % 64 + 128) :: r) = (some (Char.ofNat v), r) := by
  have hb := toNat_byte (n := v / 64 % 32 + 192) (by omega)
  have ht := toNat_byte (n := v % 64 + 128) (by omega)
  refine decodeFirst_tails (leadShape_two (by omega) (by omega)) (by omega) (by omega) ?_
  rw [takeTails, leadBits, hb, ht]
  congr 1
  omega

theorem decodeFirst_three {v : Nat} (h : 0x800 ≤ v) (h' : v < 0x10000) (hvalid : v < 0xD800 ∨ 0xDFFF < v)
    (r : List UInt8) :
    decodeFirst (UInt8.ofNat (v / 4096 % 16 + 224))
      (UInt8.ofNat (v / 64 % 64 + 128) :: UInt8.ofNat (v % 64 + 128) :: r) =
      (some (Char.ofNat v), r) := by
  have hb := toNat_byte (n := v / 4096 % 16 + 224) (by omega)
  have ht := toNat_byte (n := v / 64 % 64 + 128) (by omega)
  have hu := toNat_byte (n := v % 64 + 128) (by omega)
  refine decodeFirst_tails (leadShape_three (by omega) (by omega)) ?_ ?_ ?_
  · rw [hb, ht]
    split <;> omega
  · rw [hb, ht]
    split <;> omega
  · rw [takeTails_cons (by omega), takeTails, leadBits, hb, ht, hu]
    congr 1
    omega

theorem decodeFirst_four {v : Nat} (h : 0x10000 ≤ v) (h' : v < 0x110000) (r : List UInt8) :
    decodeFirst (UInt8.ofNat (v / 262144 % 8 + 240))
      (UInt8.ofNat (v / 4096 % 64 + 128) :: UInt8.ofNat (v / 64 % 64 + 128) ::
      UInt8.ofNat (v % 64 + 128) :: r) = (some (Char.ofNat v), r) := by
  have hb := toNat_byte (n := v / 262144 % 8 + 240) (by omega)
  have ht := toNat_byte (n := v / 4096 % 64 + 128) (by omega)
  have hu := toNat_byte (n := v / 64 % 64 + 128) (by omega)
  have hw := toNat_byte (n := v % 64 + 128) (by omega)
  refine decodeFirst_tails (leadShape_four (by omega) (by omega)) ?_ ?_ ?_
  · rw [hb, ht]
    split <;> omega
  · rw [hb, ht]
    split <;> omega
  · have hlead : ∀ b, leadBits (2 + 1) b = b.toNat % 8 := fun _ => rfl
    rw [takeTails_cons (by omega), takeTails_cons (by omega), takeTails, hlead, hb, ht, hu, hw]
    congr 1
    omega

/-- The first character is read off the front of the bytes. -/
theorem decodeFirst_utf8 (c : Char) :
    ∃ b bs, String.utf8EncodeChar c = b :: bs ∧ ∀ r, decodeFirst b (bs ++ r) = (some c, r) := by
  have hc : Char.ofNat c.val.toNat = c := Char.ofNat_toNat c
  have hvalid : c.val.toNat < 0xD800 ∨ 0xDFFF < c.val.toNat ∧ c.val.toNat < 0x110000 := c.valid
  unfold String.utf8EncodeChar
  generalize c.val.toNat = v at hc hvalid ⊢
  subst hc
  dsimp only
  split
  · exact ⟨_, [], rfl, decodeFirst_one (v := v) (by omega)⟩
  · split
    · exact ⟨_, [_], rfl, decodeFirst_two (v := v) (by omega) (by omega)⟩
    · split
      · exact ⟨_, [_, _], rfl, decodeFirst_three (v := v) (by omega) (by omega) (by omega)⟩
      · exact ⟨_, [_, _, _], rfl, decodeFirst_four (v := v) (by omega) (by omega)⟩

/-- The byte of a newline is in no other character. -/
theorem newline_notMem_utf8 {c : Char} (h : c ≠ '\n') : (10 : UInt8) ∉ String.utf8EncodeChar c := by
  have hc : Char.ofNat c.val.toNat = c := Char.ofNat_toNat c
  have hvalid : c.val.toNat < 0xD800 ∨ 0xDFFF < c.val.toNat ∧ c.val.toNat < 0x110000 := c.valid
  have hne : ∀ n, n < 256 → n ≠ 10 → (10 : UInt8) ≠ UInt8.ofNat n := by
    intro n hn hten he
    have hnat := congrArg UInt8.toNat he
    rw [toNat_byte hn] at hnat
    exact hten hnat.symm
  unfold String.utf8EncodeChar
  generalize c.val.toNat = v at hc hvalid ⊢
  subst hc
  dsimp only
  split
  · have hv : v ≠ 10 := by
      rintro rfl
      exact h rfl
    simpa using hne v (by omega) hv
  · -- no byte of a longer character is below 128
    have hlong : ∀ n, 128 ≤ n → n < 256 → (10 : UInt8) ≠ UInt8.ofNat n := fun n hn hlt => hne n hlt (by omega)
    split
    · simp only [List.mem_cons, List.not_mem_nil, or_false, not_or]
      exact ⟨hlong _ (by omega) (by omega), hlong _ (by omega) (by omega)⟩
    · split
      · simp only [List.mem_cons, List.not_mem_nil, or_false, not_or]
        exact ⟨hlong _ (by omega) (by omega), hlong _ (by omega) (by omega), hlong _ (by omega) (by omega)⟩
      · simp only [List.mem_cons, List.not_mem_nil, or_false, not_or]
        exact ⟨hlong _ (by omega) (by omega), hlong _ (by omega) (by omega), hlong _ (by omega) (by omega),
          hlong _ (by omega) (by omega)⟩

/-! ## Texts -/

open Url (bytesOf)

theorem bytesOf_cons (c : Char) (s : List Char) : bytesOf (c :: s) = String.utf8EncodeChar c ++ bytesOf s :=
  List.flatMap_cons

theorem decodeWith_bytesOf (s : List Char) {n : Nat} (h : (bytesOf s).length ≤ n) :
    decodeWith n (bytesOf s) = s.map some := by
  induction s generalizing n with
  | nil => cases n <;> rfl
  | cons c s ih =>
    obtain ⟨b, bs, hbytes, hfirst⟩ := decodeFirst_utf8 c
    rw [bytesOf_cons, hbytes, List.cons_append] at h ⊢
    cases n with
    | zero => simp at h
    | succ n =>
      rw [List.length_cons, List.length_append] at h
      rw [decodeWith, hfirst, List.map_cons]
      dsimp only
      rw [ih (by omega)]

/-- A text is decoded from its bytes. -/
theorem decode?_bytesOf (s : List Char) : decode? (bytesOf s) = some (String.ofList s) := by
  have hall : (s.map some).mapM id = some s := by
    induction s with
    | nil => rfl
    | cons c s ih => rw [List.map_cons, List.mapM_cons, ih]; rfl
  rw [decode?, decodeParts, decodeWith_bytesOf s (Nat.le_refl _), hall]
  rfl

end MultiCluster.Text
