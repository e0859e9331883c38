/-
Percent encoding taken back. What is encoded can be decoded, where the text has no percent sign of its own, so
different texts stay different (`percentText_injective`). What a form encodes has none of the characters that
divide a URL (`mem_formPairs`).
-/
import Mathlib.Data.List.Basic
import MultiCluster.Url.Path
namespace MultiCluster.Url

/-! ## Decoding -/

theorem bytesOf_append (s t : List Char) : bytesOf (s ++ t) = bytesOf s ++ bytesOf t := List.flatMap_append

theorem bytesOf_injective {s t : List Char} (h : bytesOf s = bytesOf t) : s = t := by
  refine String.ofList_injective (String.toByteArray_inj.1 ?_)
  rw [String.toByteArray_ofList, String.toByteArray_ofList]
  exact congrArg List.toByteArray h

/-- A hexadecimal digit is read as its value. -/
theorem hexValue?_hexDigit (n : Fin 16) : ∃ b, bytesOf [hexDigit n] = [b] ∧ hexValue? b = some n := by
  refine ⟨(bytesOf [hexDigit n]).head!, ?_⟩
  revert n
  decide

/-- An encoded byte is decoded. -/
theorem percentDecode_percentByte (b : UInt8) (r : List UInt8) :
    percentDecode (bytesOf (percentByte b) ++ r) = b :: percentDecode r := by
  have hb := b.toNat_lt
  obtain ⟨x, hx, hhigh⟩ := hexValue?_hexDigit ⟨b.toNat / 16, by omega⟩
  obtain ⟨y, hy, hlow⟩ := hexValue?_hexDigit ⟨b.toNat % 16, by omega⟩
  have hbytes : bytesOf (percentByte b) = [0x25, x, y] := by
    show bytesOf (['%'] ++ [hexDigit (b.toNat / 16)] ++ [hexDigit (b.toNat % 16)]) = _
    rw [bytesOf_append, bytesOf_append, hx, hy]
    rfl
  rw [hbytes]
  show percentDecode (0x25 :: x :: y :: r) = _
  rw [percentDecode, hhigh, hlow]
  show UInt8.ofNat (b.toNat / 16 * 16 + b.toNat % 16) :: percentDecode r = _
  rw [Nat.div_add_mod', UInt8.ofNat_toNat]

theorem percentDecode_flatMap (bs r : List UInt8) :
    percentDecode (bytesOf (bs.flatMap percentByte) ++ r) = bs ++ percentDecode r := by
  induction bs with
  | nil => rfl
  | cons b bs ih =>
    rw [List.flatMap_cons, bytesOf_append, List.append_assoc, percentDecode_percentByte, ih, List.cons_append]

/-- A byte that is no percent sign stands for itself. -/
theorem percentDecode_cons {b : UInt8} (h : b ≠ 0x25) (r : List UInt8) :
    percentDecode (b :: r) = b :: percentDecode r :=
  percentDecode.eq_2 b r fun _ _ _ hb _ => h hb

variable {keep : Char → Bool}

theorem percentText_cons (keep : Char → Bool) (c : Char) (s : List Char) :
    percentText keep (c :: s) = (if keep c then [c] else percentChar c) ++ percentText keep s := List.flatMap_cons

theorem isPrintable_lt {c : Char} (h : isPrintable c = true) : c.toNat < 0x7F :=
  of_decide_eq_true (Bool.and_eq_true_iff.1 h).2

theorem bytesOf_printable {c : Char} (h : isPrintable c = true) : bytesOf [c] = [UInt8.ofNat c.toNat] := by
  have hc := isPrintable_lt h
  show String.utf8EncodeChar c ++ [] = _
  rw [List.append_nil]
  exact if_pos (show c.toNat ≤ 127 by omega)

theorem ofNat_ne_percent {c : Char} (h : isPrintable c = true) (hc : '%' ≠ c) : UInt8.ofNat c.toNat ≠ 0x25 :=
  fun hbyte => by
  have hlt := isPrintable_lt h
  have hnat : c.toNat % 256 = 0x25 := congrArg UInt8.toNat hbyte
  rw [Nat.mod_eq_of_lt (by omega)] at hnat
  exact hc (Char.toNat_inj.1 hnat.symm)

/-- What is encoded is decoded, unless there was something to decode before. -/
theorem percentDecode_percentText (hkeep : ∀ c, keep c = true → isPrintable c = true) {s : List Char} (hs : '%' ∉ s) :
    percentDecode (bytesOf (percentText keep s)) = bytesOf s := by
  induction s with
  | nil => rfl
  | cons c s ih =>
    obtain ⟨hc, hs⟩ := not_or.1 (List.mem_cons.not.1 hs)
    rw [percentText_cons, bytesOf_append, show c :: s = [c] ++ s from rfl, bytesOf_append]
    split
    · rename_i hkept
      have hprintable := hkeep c hkept
      rw [bytesOf_printable hprintable, List.singleton_append,
        percentDecode_cons (ofNat_ne_percent hprintable hc), ih hs, List.singleton_append]
    · show percentDecode (bytesOf ((String.utf8EncodeChar c).flatMap percentByte) ++ _) = _
      rw [percentDecode_flatMap, ih hs]
      exact congrArg (· ++ bytesOf s) (List.append_nil _).symm

/-- Texts without percent signs are told apart by their encodings. -/
theorem percentText_injective (hkeep : ∀ c, keep c = true → isPrintable c = true) {s t : List Char} (hs : '%' ∉ s)
    (ht : '%' ∉ t) (h : percentText keep s = percentText keep t) : s = t := by
  apply bytesOf_injective
  rw [← percentDecode_percentText hkeep hs, h, percentDecode_percentText hkeep ht]

/-! ## Forms -/

theorem keptInForm_hexDigit (n : Fin 16) : keptInForm (hexDigit n) = true := by
  revert n
  decide

theorem mem_percentChar {c x : Char} (h : x ∈ percentChar c) : keptInForm x = true ∨ x = '%' := by
  obtain ⟨b, -, hx⟩ := List.mem_flatMap.1 h
  have hb := b.toNat_lt
  simp only [percentByte, List.mem_cons, List.not_mem_nil, or_false] at hx
  rcases hx with rfl | rfl | rfl
  · exact .inr rfl
  · exact .inl (keptInForm_hexDigit ⟨b.toNat / 16, by omega⟩)
  · exact .inl (keptInForm_hexDigit ⟨b.toNat % 16, by omega⟩)

/-- What encoding brings in. -/
theorem mem_percentText {s : List Char} {x : Char} (h : x ∈ percentText keep s) :
    x ∈ s ∨ keptInForm x = true ∨ x = '%' := by
  obtain ⟨c, hc, hx⟩ := List.mem_flatMap.1 h
  split at hx
  · exact .inl (List.mem_singleton.1 hx ▸ hc)
  · exact .inr (mem_percentChar hx)

theorem mem_formText {s : List Char} {x : Char} (h : x ∈ formText s) : keptInForm x = true ∨ x = '+' ∨ x = '%' := by
  obtain ⟨c, -, hx⟩ := List.mem_flatMap.1 h
  split at hx
  · exact .inr (.inl (List.mem_singleton.1 hx))
  · split at hx
    · rename_i hkept
      exact .inl (List.mem_singleton.1 hx ▸ hkept)
    · exact (mem_percentChar hx).imp_right .inr

/-- What one pair has besides what is kept. -/
theorem mem_formPairs_singleton {k v : String} {x : Char} (h : x ∈ formPairs [(k, v)]) :
    keptInForm x = true ∨ x ∈ ['+', '%', '='] := by
  have htext : ∀ {s : List Char}, x ∈ formText s → keptInForm x = true ∨ x ∈ ['+', '%', '='] := fun h =>
    (mem_formText h).imp_right (by rintro (rfl | rfl) <;> decide)
  rcases List.mem_append.1 h with h | h
  · exact htext h
  · rcases List.mem_cons.1 h with rfl | h
    · decide
    · exact htext h

theorem mem_formPairs {ps : List (String × String)} {x : Char} (h : x ∈ formPairs ps) :
    keptInForm x = true ∨ x ∈ ['+', '%', '='] ++ ['&'] := by
  fun_induction formPairs ps with
  | case1 => cases h
  | case2 k v => exact (mem_formPairs_singleton h).imp_right (List.mem_append_left _)
  | case3 k v p r ih =>
    rcases List.mem_append.1 h with h | h
    · exact (mem_formPairs_singleton h).imp_right (List.mem_append_left _)
    · rcases List.mem_cons.1 h with rfl | h
      · decide
      · exact ih h

end MultiCluster.Url
