/-
The strict texts of versions. A version can be written strictly if its numbers are in range and its identifiers are
of the right characters (`WellFormed`), and the texts that are read are exactly those that such versions are written
as (`read_eq_ok_iff`): no version has two strict texts. Each reader takes a part off the front of a text: a number
without zeros in front (`readNumber_append`), identifiers as far as they go (`readIdentifiers_append`), or such
identifiers behind their sign (`readSuffix_append`); and each takes nothing else (`exists_of_readNumber` and the like).
-/
import MultiCluster.Proofs.Except
import MultiCluster.Version.Semantic
import Mathlib
namespace MultiCluster.Version

variable {part : Part} {s r : List Char}

/-! ## Well-formed versions -/

/-- An identifier of a part: letters, digits and hyphens, and in a pre-release no number with a zero in front. -/
structure IsIdentifier (part : Part) (s : List Char) : Prop where
  nonempty : s ≠ []
  chars : ∀ c ∈ s, isIdentChar c = true
  plain : ¬ (part = .pre ∧ s.all isDigit = true ∧ s.length > 1 ∧ s.head? = some '0')

/-- One identifier, or more with dots between them. -/
def AreIdentifiers (part : Part) (s : List Char) : Prop := ∀ p ∈ Text.split '.' s, IsIdentifier part p

structure WellFormed (v : Version) : Prop where
  major : v.major ≤ maxNumber
  minor : v.minor ≤ maxNumber
  patch : v.patch ≤ maxNumber
  pre : v.pre.toList = [] ∨ AreIdentifiers .pre v.pre.toList
  build : v.build.toList = [] ∨ AreIdentifiers .build v.build.toList

instance : Decidable (IsIdentifier part s) :=
  decidable_of_iff (s ≠ [] ∧ (s.all isIdentChar = true) ∧
      ¬ (part = .pre ∧ s.all isDigit = true ∧ s.length > 1 ∧ s.head? = some '0'))
    ⟨fun ⟨h, h', h''⟩ => ⟨h, List.all_eq_true.1 h', h''⟩, fun ⟨h, h', h''⟩ => ⟨h, List.all_eq_true.2 h', h''⟩⟩

instance : Decidable (AreIdentifiers part s) :=
  inferInstanceAs (Decidable (∀ p ∈ Text.split '.' s, IsIdentifier part p))

instance (v : Version) : Decidable v.WellFormed :=
  decidable_of_iff (v.major ≤ maxNumber ∧ v.minor ≤ maxNumber ∧ v.patch ≤ maxNumber ∧
      (v.pre.toList = [] ∨ AreIdentifiers .pre v.pre.toList) ∧
      (v.build.toList = [] ∨ AreIdentifiers .build v.build.toList))
    ⟨fun ⟨h, h', h'', hpre, hbuild⟩ => ⟨h, h', h'', hpre, hbuild⟩,
      fun ⟨h, h', h'', hpre, hbuild⟩ => ⟨h, h', h'', hpre, hbuild⟩⟩

/-! ## The written form -/

/-- A part behind its sign; nothing if the part is empty. -/
def signed (sign : Char) (s : List Char) : List Char := if s = [] then [] else sign :: s

theorem toList_render (v : Version) : v.render.toList = Nat.toDigits 10 v.major ++ '.' :: (Nat.toDigits 10 v.minor ++
    '.' :: (Nat.toDigits 10 v.patch ++ (signed '-' v.pre.toList ++ signed '+' v.build.toList))) := by
  have hsigned (sign t : String) (c : Char) (hc : sign.toList = [c]) :
      (if t.isEmpty then "" else sign ++ t).toList = signed c t.toList := by
    unfold signed
    by_cases ht : t = "" <;> simp [ht, hc]
  simp only [render, String.toList_append, hsigned "-" v.pre '-' rfl, hsigned "+" v.build '+' rfl,
    Nat.toString_eq_repr, Nat.toList_repr, List.append_assoc]
  rfl

/-! ## Numbers -/

/-- The text does not go on with a digit. -/
def EndsNumber (r : List Char) : Prop := ∀ c ∈ r.head?, isDigit c = false

theorem ofDigitChars_cons (d : Char) (ds : List Char) (v : Nat) :
    Nat.ofDigitChars 10 (d :: ds) v = Nat.ofDigitChars 10 ds (v * 10 + (d.toNat - 48)) := by
  rw [Nat.ofDigitChars_cons, Nat.mul_comm]
  rfl

theorem le_ofDigitChars (ds : List Char) (v : Nat) : v ≤ Nat.ofDigitChars 10 ds v := by
  induction ds generalizing v with
  | nil => exact Nat.le_refl v
  | cons d ds ih =>
    rw [ofDigitChars_cons]
    exact Nat.le_trans (by omega) (ih _)

/-- Behind a number that is not zero more digits are read while the value is in range. -/
theorem readDigits_append {v : Nat} {ds : List Char} (hds : ∀ d ∈ ds, isDigit d = true) (hr : EndsNumber r)
    (hrange : ds ≠ [] → v ≠ 0 ∧ Nat.ofDigitChars 10 ds v ≤ maxNumber) :
    readDigits part v true (ds ++ r) = .ok (Nat.ofDigitChars 10 ds v, r) := by
  induction ds generalizing v with
  | nil =>
    cases r with
    | nil => rfl
    | cons c r =>
      have hc : ¬ isDigit c = true := by simpa [EndsNumber] using hr
      rw [List.nil_append, readDigits, if_neg hc, if_pos rfl]
      rfl
  | cons d ds ih =>
    obtain ⟨hd, hds⟩ := List.forall_mem_cons.1 hds
    obtain ⟨hv, hmax⟩ := hrange (by simp)
    rw [ofDigitChars_cons] at hmax ⊢
    have hvalue : v * 10 + (d.toNat - 48) ≤ maxNumber := Nat.le_trans (le_ofDigitChars ds _) hmax
    rw [List.cons_append, readDigits, if_pos hd, if_neg (by simp [hv])]
    dsimp only
    rw [if_pos hvalue, ih hds fun _ => ⟨by omega, hmax⟩]

theorem exists_of_readDigits {v n : Nat} (h : readDigits part v true s = .ok (n, r)) : ∃ ds, s = ds ++ r ∧
    (∀ d ∈ ds, isDigit d = true) ∧ Nat.ofDigitChars 10 ds v = n ∧ (ds ≠ [] → v ≠ 0 ∧ n ≤ maxNumber) ∧ EndsNumber r := by
  induction s generalizing v with
  | nil =>
    cases h
    exact ⟨[], rfl, by simp, rfl, by simp, by simp [EndsNumber]⟩
  | cons c s ih =>
    unfold readDigits at h
    split at h
    · rename_i hc
      obtain ⟨hv, h⟩ := guard_eq_ok.1 h
      dsimp only at h
      split at h
      · rename_i hmax
        obtain ⟨ds, rfl, hds, hn, hrange, hr⟩ := ih h
        refine ⟨c :: ds, rfl, List.forall_mem_cons.2 ⟨hc, hds⟩, (ofDigitChars_cons c ds v).trans hn,
          fun _ => ⟨?_, ?_⟩, hr⟩
        · simpa using hv
        · cases ds with
          | nil => exact hn ▸ hmax
          | cons => exact (hrange (by simp)).2
      · cases h
    · rename_i hc
      rw [if_pos rfl] at h
      cases h
      exact ⟨[], rfl, by simp, rfl, by simp, by simpa [EndsNumber] using hc⟩

theorem isDigit_iff {d : Char} : isDigit d = true ↔ 48 ≤ d.toNat ∧ d.toNat ≤ 57 := by
  simp [isDigit, Char.le_def, UInt32.le_iff_toNat_le]

theorem digit_lt {d : Char} (hd : isDigit d = true) : d.toNat - 48 < 10 := by
  have := isDigit_iff.1 hd
  omega

theorem toDigits_digit {d : Char} (hd : isDigit d = true) : Nat.toDigits 10 (d.toNat - 48) = [d] := by
  have hrange := isDigit_iff.1 hd
  rw [Nat.toDigits_of_lt_base (digit_lt hd), List.cons.injEq]
  refine ⟨Char.toNat_inj.1 ?_, rfl⟩
  rw [Nat.toNat_digitChar_of_lt_ten (digit_lt hd)]
  omega

/-- The digits of a number behind those of one that is not zero. -/
theorem toDigits_ofDigitChars {ds : List Char} (hds : ∀ d ∈ ds, isDigit d = true) {v : Nat} (hv : v ≠ 0) :
    Nat.toDigits 10 (Nat.ofDigitChars 10 ds v) = Nat.toDigits 10 v ++ ds := by
  induction ds generalizing v with
  | nil => simp
  | cons d ds ih =>
    obtain ⟨hd, hds⟩ := List.forall_mem_cons.1 hds
    have hlast : Nat.toDigits 10 (v * 10 + (d.toNat - 48)) = Nat.toDigits 10 v ++ [d] := by
      rw [← toDigits_digit hd, Nat.toDigits_append_toDigits (by decide) (by omega) (digit_lt hd), Nat.mul_comm]
    rw [ofDigitChars_cons, ih hds (by omega), hlast, List.append_assoc]
    rfl

theorem head?_toDigits {n : Nat} (h : n ≠ 0) : (Nat.toDigits 10 n).head? ≠ some '0' := by
  induction n using Nat.base_induction 10 (by decide) with
  | single n hn => simpa [Nat.toDigits_of_lt_base hn] using h
  | digit n d hd hn ih =>
    rw [← Nat.toDigits_append_toDigits (by decide) hn hd, List.head?_append_of_ne_nil _ Nat.toDigits_ne_nil]
    exact ih (by omega)

/-- A number has no zeros in front. -/
theorem toDigits_cases (n : Nat) : ∃ d ds, Nat.toDigits 10 n = d :: ds ∧ (∀ c ∈ d :: ds, isDigit c = true) ∧
    Nat.ofDigitChars 10 ds (d.toNat - 48) = n ∧ (ds ≠ [] → d.toNat - 48 ≠ 0) := by
  have hchars : ∀ c ∈ Nat.toDigits 10 n, isDigit c = true :=
    fun c hc => Nat.isDigit_of_mem_toDigits (by decide) (by decide) hc
  have hvalue : Nat.ofDigitChars 10 (Nat.toDigits 10 n) 0 = n := Nat.ofDigitChars_ten_toDigits
  obtain ⟨d, ds, hdigits⟩ := List.exists_cons_of_ne_nil (Nat.toDigits_ne_nil (n := n) (b := 10))
  rw [hdigits] at hchars hvalue
  rw [ofDigitChars_cons, Nat.zero_mul, Nat.zero_add] at hvalue
  refine ⟨d, ds, hdigits, hchars, hvalue, fun hne hzero => ?_⟩
  have hd : d = '0' := by
    have := (isDigit_iff.1 (hchars d (by simp))).1
    exact Char.toNat_inj.1 (show d.toNat = 48 by omega)
  by_cases hn : n = 0
  · subst hn
    simp_all
  · exact head?_toDigits hn (by rw [hdigits, hd]; rfl)

theorem readNumber_append {n : Nat} (hn : n ≤ maxNumber) (hr : EndsNumber r) :
    readNumber part (Nat.toDigits 10 n ++ r) = .ok (n, r) := by
  obtain ⟨d, ds, hdigits, hchars, rfl, hzero⟩ := toDigits_cases n
  obtain ⟨hd, hds⟩ := List.forall_mem_cons.1 hchars
  have hfirst : 0 * 10 + (d.toNat - 48) ≤ maxNumber := by
    have := le_ofDigitChars ds (d.toNat - 48)
    omega
  rw [hdigits, readNumber, List.cons_append, readDigits, if_pos hd, if_neg (by simp)]
  dsimp only
  rw [if_pos hfirst, Nat.zero_mul, Nat.zero_add, readDigits_append hds hr fun hne => ⟨hzero hne, hn⟩]

theorem exists_of_readNumber {n : Nat} (h : readNumber part s = .ok (n, r)) :
    n ≤ maxNumber ∧ s = Nat.toDigits 10 n ++ r ∧ EndsNumber r := by
  cases s with
  | nil => cases h
  | cons d s =>
    rw [readNumber, readDigits] at h
    split at h
    · rename_i hd
      obtain ⟨-, h⟩ := guard_eq_ok.1 h
      dsimp only at h
      rw [Nat.zero_mul, Nat.zero_add] at h
      split at h
      · rename_i hmax
        obtain ⟨ds, rfl, hds, rfl, hrange, hr⟩ := exists_of_readDigits h
        by_cases hne : ds = []
        · subst hne
          exact ⟨hmax, by simp [toDigits_digit hd], hr⟩
        · obtain ⟨hzero, hn⟩ := hrange hne
          exact ⟨hn, by rw [toDigits_ofDigitChars hds hzero, toDigits_digit hd]; rfl, hr⟩
      · cases h
    · cases h

/-! ## Identifiers -/

/-- The text does not go on with an identifier. -/
def EndsIdentifiers (r : List Char) : Prop := ∀ c ∈ r.head?, isIdentChar c = false ∧ c ≠ '.'

/-- A text is cut where the first character stands that is not of the kind asked for. -/
theorem span_append {p : Char → Bool} (hs : ∀ c ∈ s, p c = true) (hr : ∀ c ∈ r.head?, p c = false) :
    (s ++ r).takeWhile p = s ∧ (s ++ r).dropWhile p = r := by
  rw [List.takeWhile_append_of_pos hs, List.dropWhile_append_of_pos hs]
  cases r with
  | nil => simp
  | cons c r =>
    have hc : p c = false := hr c rfl
    simp [hc]

theorem dot_notMem (hs : ∀ c ∈ s, isIdentChar c = true) : '.' ∉ s := fun h => absurd (hs '.' h) (by decide)

theorem areIdentifiers_cons {p : List Char} (hp : ∀ c ∈ p, isIdentChar c = true) :
    AreIdentifiers part (p ++ '.' :: s) ↔ IsIdentifier part p ∧ AreIdentifiers part s := by
  unfold AreIdentifiers
  rw [Text.split_append s (dot_notMem hp), List.forall_mem_cons]

theorem areIdentifiers_singleton {p : List Char} (hp : ∀ c ∈ p, isIdentChar c = true) :
    AreIdentifiers part p ↔ IsIdentifier part p := by
  unfold AreIdentifiers
  rw [Text.split_of_not_mem (dot_notMem hp), List.forall_mem_singleton]

theorem readIdentifiers_dot {p : List Char} (hp : IsIdentifier part p) (first : Bool) (s : List Char) :
    readIdentifiers part first (p ++ '.' :: s) =
      (readIdentifiers part false s).map fun x => (p ++ '.' :: x.1, x.2) := by
  obtain ⟨htake, hdrop⟩ := span_append (r := '.' :: s) hp.chars (by simp; decide)
  rw [readIdentifiers]
  simp only [htake]
  split
  · rename_i r h
    obtain ⟨-, rfl⟩ := List.cons.inj (h.symm.trans hdrop)
    rw [if_neg (by simpa using hp.nonempty), if_neg (by simpa [and_assoc] using hp.plain)]
    cases readIdentifiers part false r <;> rfl
  · rename_i h
    exact absurd hdrop (h s)

theorem readIdentifiers_end {p : List Char} (hp : IsIdentifier part p) (first : Bool) (hr : EndsIdentifiers r) :
    readIdentifiers part first (p ++ r) = .ok (p, r) := by
  obtain ⟨htake, hdrop⟩ := span_append hp.chars fun c hc => (hr c hc).1
  rw [readIdentifiers]
  simp only [htake]
  split
  · rename_i r' h
    rw [hdrop] at h
    exact absurd rfl (hr '.' (by simp [h])).2
  · rw [if_neg (by simpa using hp.nonempty), if_neg (by simpa [and_assoc] using hp.plain), hdrop]

theorem readIdentifiers_append {first : Bool} {ids : List Char} (hids : AreIdentifiers part ids)
    (hr : EndsIdentifiers r) :
    readIdentifiers part first (ids ++ r) = .ok (ids, r) := by
  have hsegments : ∀ ps : List (List Char), ps ≠ [] → (∀ p ∈ ps, IsIdentifier part p) → ∀ first,
      readIdentifiers part first (Text.join ['.'] ps ++ r) = .ok (Text.join ['.'] ps, r) := by
    intro ps hne hps
    induction ps with
    | nil => cases hne rfl
    | cons p ps ih =>
      obtain ⟨hp, hps⟩ := List.forall_mem_cons.1 hps
      intro first
      cases ps with
      | nil => exact readIdentifiers_end hp first hr
      | cons q ps =>
        have hjoin : Text.join ['.'] (p :: q :: ps) = p ++ '.' :: Text.join ['.'] (q :: ps) := by simp [Text.join]
        rw [hjoin, List.append_assoc, List.cons_append, readIdentifiers_dot hp first, ih (by simp) hps false]
        rfl
  have hjoin := hsegments (Text.split '.' ids) (Text.split_ne_nil '.' ids) hids first
  rwa [Text.join_split] at hjoin

theorem endsIdentifiers_dropWhile (h : ∀ r, s.dropWhile isIdentChar = '.' :: r → False) :
    EndsIdentifiers (s.dropWhile isIdentChar) := by
  intro c hc
  have hhead := List.head?_dropWhile_not isIdentChar s
  rw [Option.mem_def.1 hc] at hhead
  refine ⟨by simpa using hhead, ?_⟩
  rintro rfl
  obtain ⟨r, hr⟩ := List.head?_eq_some_iff.1 hc
  exact h r hr

theorem isIdentifier_takeWhile (hne : ¬ (s.takeWhile isIdentChar).isEmpty = true)
    (hplain : ¬ (part = .pre ∧ (s.takeWhile isIdentChar).all isDigit = true ∧ (s.takeWhile isIdentChar).length > 1 ∧
      (s.takeWhile isIdentChar).head? = some '0')) : IsIdentifier part (s.takeWhile isIdentChar) :=
  ⟨by simpa using hne, fun _ hc => List.mem_takeWhile_imp hc, hplain⟩

theorem exists_of_readIdentifiers {first : Bool} {ids : List Char} (h : readIdentifiers part first s = .ok (ids, r)) :
    s = ids ++ r ∧ (AreIdentifiers part ids ∨ ids = [] ∧ first = true) ∧ EndsIdentifiers r := by
  fun_induction readIdentifiers part first s generalizing ids r with
  | case1 | case2 | case4 | case6 | case7 => cases h
  | case3 =>
    rename_i s _ t ht hne hplain more rest hmore ih
    -- a segment, a dot and more of them
    cases h
    obtain ⟨hsplit, hids, hrest⟩ := ih hmore
    have hsegment := isIdentifier_takeWhile hne hplain
    refine ⟨?_, .inl ((areIdentifiers_cons hsegment.chars).2 ⟨hsegment, hids.resolve_right (by simp)⟩), hrest⟩
    calc s = s.takeWhile isIdentChar ++ '.' :: t := by rw [← ht, List.takeWhile_append_dropWhile]
      _ = s.takeWhile isIdentChar ++ '.' :: more ++ rest := by simp [hsplit]
  | case5 =>
    rename_i s _ hempty hdot
    cases h
    have hnil : s.takeWhile isIdentChar = [] := List.isEmpty_iff.1 hempty
    have hdrop := List.takeWhile_append_dropWhile (p := isIdentChar) (l := s)
    rw [hnil, List.nil_append] at hdrop
    exact ⟨rfl, .inr ⟨rfl, rfl⟩, hdrop ▸ endsIdentifiers_dropWhile hdot⟩
  | case8 =>
    rename_i s _ hne hplain hdot
    cases h
    have hsegment := isIdentifier_takeWhile hne hplain
    exact ⟨List.takeWhile_append_dropWhile.symm, .inl ((areIdentifiers_singleton hsegment.chars).2 hsegment),
      endsIdentifiers_dropWhile hdot⟩

/-! ## Parts behind a sign -/

theorem readSuffix_append {sign : Char} {ids : List Char} (hids : ids = [] ∨ AreIdentifiers part ids)
    (hr : EndsIdentifiers r) (hsign : r.head? ≠ some sign) :
    ∃ x, readSuffix part sign (signed sign ids ++ r) = .ok (x, r) ∧ x.getD [] = ids := by
  by_cases hne : ids = []
  · subst hne
    refine ⟨none, ?_, rfl⟩
    cases r with
    | nil => rfl
    | cons c r => exact if_neg fun hc => hsign (congrArg some hc)
  · refine ⟨some ids, ?_, rfl⟩
    obtain ⟨c, ids, rfl⟩ := List.exists_cons_of_ne_nil hne
    rw [signed, if_neg hne, List.cons_append, readSuffix, if_pos rfl, readIdentifiers_append (hids.resolve_left hne) hr]

theorem exists_of_readSuffix {sign : Char} {x : Option (List Char)} (h : readSuffix part sign s = .ok (x, r)) :
    s = signed sign (x.getD []) ++ r ∧ (x.getD [] = [] ∨ AreIdentifiers part (x.getD [])) := by
  cases s with
  | nil =>
    cases h
    exact ⟨rfl, .inl rfl⟩
  | cons c s =>
    rw [readSuffix] at h
    split at h
    · rename_i hc
      split at h
      · cases h
      · rename_i ids rest hempty hids
        cases h
        obtain ⟨hsplit, hwell, -⟩ := exists_of_readIdentifiers hids
        have hids : ids ≠ [] := hempty
        refine ⟨?_, .inr (hwell.resolve_right fun he => hids he.1)⟩
        simp [signed, hids, hc, hsplit]
      · cases h
    · cases h
      exact ⟨rfl, .inl rfl⟩

/-! ## The whole text -/

theorem endsNumber_dot : EndsNumber ('.' :: s) := by
  simp [EndsNumber]
  decide

/-- Behind the last number stands a sign, or nothing. -/
theorem endsNumber_signed (pre build : List Char) : EndsNumber (signed '-' pre ++ signed '+' build) := by
  unfold EndsNumber signed
  split <;> split <;> simp <;> decide

theorem endsIdentifiers_signed (build : List Char) : EndsIdentifiers (signed '+' build) := by
  unfold EndsIdentifiers signed
  split
  · simp
  · simp
    decide

theorem readDot_eq_ok : readDot part s = .ok r ↔ s = '.' :: r := by
  cases s with
  | nil => exact iff_of_false nofun nofun
  | cons c s =>
    rw [readDot]
    split <;> simp_all

theorem exists_of_readChars {v : Version} (h : readChars s = .ok v) : v.WellFormed ∧ s = v.render.toList := by
  unfold readChars at h
  obtain ⟨-, h⟩ := guard_eq_ok.1 h
  obtain ⟨⟨major, s₁⟩, hmajor, h⟩ := bind_eq_ok h
  obtain ⟨s₂, hdot, h⟩ := bind_eq_ok h
  obtain ⟨⟨minor, s₃⟩, hminor, h⟩ := bind_eq_ok h
  obtain ⟨s₄, hdot', h⟩ := bind_eq_ok h
  obtain ⟨⟨patch, s₅⟩, hpatch, h⟩ := bind_eq_ok h
  obtain ⟨⟨pre, s₆⟩, hpre, h⟩ := bind_eq_ok h
  obtain ⟨⟨build, s₇⟩, hbuild, hend⟩ := bind_eq_ok h
  obtain ⟨hmax, rfl, -⟩ := exists_of_readNumber hmajor
  obtain rfl := readDot_eq_ok.1 hdot
  obtain ⟨hmax', rfl, -⟩ := exists_of_readNumber hminor
  obtain rfl := readDot_eq_ok.1 hdot'
  obtain ⟨hmax'', rfl, -⟩ := exists_of_readNumber hpatch
  obtain ⟨rfl, hpre⟩ := exists_of_readSuffix hpre
  obtain ⟨rfl, hbuild⟩ := exists_of_readSuffix hbuild
  -- nothing is left over
  cases s₇ with
  | nil =>
    cases hend
    refine ⟨⟨hmax, hmax', hmax'', by rwa [String.toList_ofList], by rwa [String.toList_ofList]⟩, ?_⟩
    rw [toList_render, String.toList_ofList, String.toList_ofList, List.append_nil]
  | cons => cases hend

theorem readChars_render {v : Version} (h : v.WellFormed) : readChars v.render.toList = .ok v := by
  obtain ⟨pre, hpre, hpre'⟩ : ∃ x, readSuffix .pre '-' (signed '-' v.pre.toList ++ signed '+' v.build.toList) =
      .ok (x, signed '+' v.build.toList) ∧ x.getD [] = v.pre.toList := by
    refine readSuffix_append h.pre (endsIdentifiers_signed _) ?_
    unfold signed
    split <;> simp
  obtain ⟨build, hbuild, hbuild'⟩ : ∃ x, readSuffix .build '+' (signed '+' v.build.toList) = .ok (x, []) ∧
      x.getD [] = v.build.toList := by
    simpa using readSuffix_append (r := []) h.build (by simp [EndsIdentifiers]) (by simp)
  rw [toList_render]
  refine guard_eq_ok.2 ⟨by simp, ?_⟩
  refine bind_eq_ok_iff.2 ⟨_, readNumber_append h.major endsNumber_dot, ?_⟩
  refine bind_eq_ok_iff.2 ⟨_, readDot_eq_ok.2 rfl, ?_⟩
  refine bind_eq_ok_iff.2 ⟨_, readNumber_append h.minor endsNumber_dot, ?_⟩
  refine bind_eq_ok_iff.2 ⟨_, readDot_eq_ok.2 rfl, ?_⟩
  refine bind_eq_ok_iff.2 ⟨_, readNumber_append h.patch (endsNumber_signed _ _), ?_⟩
  refine bind_eq_ok_iff.2 ⟨_, hpre, ?_⟩
  refine bind_eq_ok_iff.2 ⟨_, hbuild, ?_⟩
  dsimp only
  rw [hpre', hbuild', String.ofList_toList, String.ofList_toList]
  rfl

/-- The texts that are read are those that well-formed versions are written as. -/
theorem read_eq_ok_iff {text : String} {v : Version} : read text = .ok v ↔ v.WellFormed ∧ text = v.render := by
  constructor
  · intro h
    obtain ⟨hv, htext⟩ := exists_of_readChars h
    exact ⟨hv, String.toList_inj.1 htext⟩
  · rintro ⟨hv, rfl⟩
    exact readChars_render hv

end MultiCluster.Version
