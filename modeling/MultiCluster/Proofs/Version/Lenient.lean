/-
The lenient reading of versions. A text is put into its strict form (`normalize`): the blanks around it and one `v` are
taken off, and the core, the part before the first sign, is filled up to three numbers (`normalize_core`). A strict
text is its own strict form (`normalize_render`), so what could be read strictly is read as before, and the written
form of a version is read as that version. `readVersion_lenient` lists what else may be said in another way.
-/
import MultiCluster.History
import MultiCluster.Proofs.Text.Blank
import MultiCluster.Proofs.Version.Strict
namespace MultiCluster

namespace Text

variable {c : Char} {s : List Char}

theorem length_split (c : Char) (s : List Char) : (split c s).length = s.count c + 1 := by
  induction s with
  | nil => rfl
  | cons x s ih =>
    unfold split
    split
    · rename_i h
      simp [h, ih]
    · rename_i h
      rw [List.count_cons_of_ne h]
      split
      · rename_i hs
        exact absurd hs (split_ne_nil c s)
      · rename_i p ps hs
        simpa [hs] using ih

/-- Every other character than the separator is in a piece. -/
theorem exists_mem_split {x : Char} (hx : x ∈ s) (hc : x ≠ c) : ∃ p ∈ split c s, x ∈ p := by
  have hjoin := join_split c s
  generalize split c s = ps at hjoin ⊢
  subst hjoin
  induction ps with
  | nil => cases hx
  | cons p ps ih =>
    cases ps with
    | nil => exact ⟨p, by simp, hx⟩
    | cons q ps =>
      simp only [join, List.mem_append, List.mem_singleton, hc, or_false] at hx
      rcases hx with hx | hx
      · exact ⟨p, by simp, hx⟩
      · obtain ⟨p', hp', hx'⟩ := ih hx
        exact ⟨p', List.mem_cons_of_mem _ hp', hx'⟩

end Text

namespace Version

variable {core suffix s t : List Char} {v : Version}

/-! ## Core and suffix -/

/-- The character is not one of the signs that end a core. -/
def inCore (c : Char) : Bool := c != '-' && c != '+'

def IsCore (s : List Char) : Prop := ∀ c ∈ s, inCore c = true

/-- The text begins with a sign, or is empty. -/
def IsSuffix (s : List Char) : Prop := ∀ c ∈ s.head?, inCore c = false

/-- The text does not begin with the mark of a version. -/
def Unmarked (s : List Char) : Prop := ∀ c ∈ s.head?, c ≠ 'v' ∧ c ≠ 'V'

instance : Decidable (IsCore s) := List.decidableBAll _ s
instance : Decidable (IsSuffix s) := Option.decidableForallMem s.head?
instance : Decidable (Unmarked s) := Option.decidableForallMem s.head?

/-- The text with its core filled up. -/
def padded (s : List Char) : List Char := padCore (s.takeWhile inCore) ++ s.dropWhile inCore

theorem normalize_eq (s : List Char) : normalize s = padded (dropV (Text.trim s)) := rfl

theorem padded_append (hcore : IsCore core) (hsuffix : IsSuffix suffix) :
    padded (core ++ suffix) = padCore core ++ suffix := by
  obtain ⟨htake, hdrop⟩ := span_append hcore hsuffix
  rw [padded, htake, hdrop]

theorem padCore_of_le (h : 3 ≤ (Text.split '.' core).length) : padCore core = core := by
  simp [padCore, Nat.sub_eq_zero_of_le h]

/-- A zero that is missing may as well be written. -/
theorem padCore_zero (h : (Text.split '.' core).length ≤ 2) : padCore (core ++ ['.', '0']) = padCore core := by
  have hlength : (Text.split '.' (core ++ ['.', '0'])).length = (Text.split '.' core).length + 1 := by
    simp [Text.length_split]
  obtain ⟨n, hn⟩ : ∃ n, 3 - (Text.split '.' core).length = n + 1 := ⟨2 - (Text.split '.' core).length, by omega⟩
  have hn' : 3 - ((Text.split '.' core).length + 1) = n := by omega
  rw [padCore, padCore, hlength, hn, hn', List.replicate_succ, List.flatten_cons, List.append_assoc]

theorem dropV_of_unmarked (h : Unmarked s) : dropV s = s := by
  unfold Unmarked at h
  unfold dropV
  split <;> simp_all

theorem dropV_append (s : List Char) (h : Unmarked t) : dropV (s ++ t) = dropV s ++ t := by
  cases s with
  | nil => exact dropV_of_unmarked h
  | cons c s =>
    unfold dropV
    split <;> simp_all

theorem unmarked_suffix (h : IsSuffix suffix) : Unmarked suffix := by
  intro c hc
  have hsign := h c hc
  constructor <;> rintro rfl <;> cases hsign

theorem length_split_dropV (s : List Char) : (Text.split '.' (dropV s)).length = (Text.split '.' s).length := by
  rw [Text.length_split, Text.length_split]
  unfold dropV
  split <;> simp

theorem isCore_dropV (h : IsCore core) : IsCore (dropV core) := by
  unfold dropV
  split
  · exact (List.forall_mem_cons.1 h).2
  · exact (List.forall_mem_cons.1 h).2
  · exact h

theorem beginsPlain_suffix (h : IsSuffix suffix) : Text.BeginsPlain suffix := by
  intro c hc
  have hsign : c = '-' ∨ c = '+' := by
    have := h c hc
    simp only [inCore, Bool.and_eq_false_iff, bne_eq_false_iff_eq] at this
    exact this
  rcases hsign with rfl | rfl <;> rfl

/-- The strict form of a core and a suffix behind it. -/
theorem normalize_core (hcore : IsCore core) (hplain : Text.NoBlank core) (hsuffix : IsSuffix suffix) :
    normalize (core ++ suffix) = padCore (dropV core) ++ Text.trimEnd suffix := by
  have hbegin : Text.BeginsPlain (core ++ suffix) := by
    intro c hc
    rw [List.head?_append, Option.mem_def, Option.or_eq_some_iff] at hc
    rcases hc with hc | ⟨-, hc⟩
    · exact hplain c (List.mem_of_mem_head? hc)
    · exact beginsPlain_suffix hsuffix c hc
  have hend : Text.EndsPlain core := fun c hc => hplain c (List.mem_of_mem_getLast? hc)
  have htrimmed : IsSuffix (Text.trimEnd suffix) := fun c hc => hsuffix c (Text.mem_head?_trimEnd hc)
  rw [normalize_eq, Text.trim, Text.trimStart_of_beginsPlain hbegin, Text.trimEnd_append hend,
    dropV_append core (unmarked_suffix htrimmed), padded_append (isCore_dropV hcore) htrimmed]

/-! ## Strict texts -/

theorem plain_identChar {c : Char} (h : isIdentChar c = true) : Text.isBlank c = false := by
  have hrange : 45 ≤ c.toNat ∧ c.toNat ≤ 122 := by
    simp only [isIdentChar, isDigit, Bool.or_eq_true, Bool.and_eq_true, decide_eq_true_eq, beq_iff_eq, Char.le_def,
      UInt32.le_iff_toNat_le] at h
    rcases h with ((h | h) | h) | rfl
    · exact ⟨Nat.le_trans (by decide) h.1, Nat.le_trans h.2 (by decide)⟩
    · exact ⟨Nat.le_trans (by decide) h.1, Nat.le_trans h.2 (by decide)⟩
    · exact ⟨Nat.le_trans (by decide) h.1, Nat.le_trans h.2 (by decide)⟩
    · decide
  simp only [Text.isBlank, Bool.or_eq_false_iff, Bool.and_eq_false_iff, decide_eq_false_iff_not, beq_eq_false_iff_ne]
  omega

theorem plain_identifiers {part : Part} (h : s = [] ∨ AreIdentifiers part s) : Text.NoBlank s := by
  intro c hc
  by_cases hdot : c = '.'
  · subst hdot
    rfl
  · obtain ⟨p, hp, hcp⟩ := Text.exists_mem_split hc hdot
    rcases h with rfl | h
    · cases hc
    · exact plain_identChar ((h p hp).chars c hcp)

theorem plain_signed {sign : Char} (hsign : Text.isBlank sign = false) (h : Text.NoBlank s) :
    Text.NoBlank (signed sign s) := by
  unfold signed
  split
  · exact List.forall_mem_nil _
  · exact List.forall_mem_cons.2 ⟨hsign, h⟩

/-- The written form has a core of three numbers. -/
theorem exists_render_eq (v : Version) : ∃ core,
    v.render.toList = core ++ (signed '-' v.pre.toList ++ signed '+' v.build.toList) ∧
    (∀ c ∈ core, isDigit c = true ∨ c = '.') ∧ (∀ c ∈ core.head?, isDigit c = true) ∧
    (Text.split '.' core).length = 3 := by
  have hdigits (n : Nat) : ∀ c ∈ Nat.toDigits 10 n, isDigit c = true := fun c hc =>
    Nat.isDigit_of_mem_toDigits (by decide) (by decide) hc
  have hdot (n : Nat) : '.' ∉ Nat.toDigits 10 n := fun h => absurd (hdigits n '.' h) (by decide)
  refine ⟨Nat.toDigits 10 v.major ++ '.' :: (Nat.toDigits 10 v.minor ++ '.' :: Nat.toDigits 10 v.patch), ?_, ?_, ?_, ?_⟩
  · simp [toList_render]
  · intro c hc
    simp only [List.mem_append, List.mem_cons] at hc
    rcases hc with hc | rfl | hc | rfl | hc
    · exact .inl (hdigits _ c hc)
    · exact .inr rfl
    · exact .inl (hdigits _ c hc)
    · exact .inr rfl
    · exact .inl (hdigits _ c hc)
  · intro c hc
    rw [List.head?_append_of_ne_nil _ Nat.toDigits_ne_nil] at hc
    exact hdigits _ c (List.mem_of_mem_head? hc)
  · rw [Text.split_append _ (hdot _), Text.split_append _ (hdot _), Text.split_of_not_mem (hdot _)]
    rfl

theorem isCore_of_digits (h : ∀ c ∈ s, isDigit c = true ∨ c = '.') : IsCore s := by
  intro c hc
  rcases h c hc with hdigit | rfl
  · have hrange := isDigit_iff.1 hdigit
    simp only [inCore, Bool.and_eq_true, bne_iff_ne]
    constructor <;> rintro rfl <;> revert hrange <;> decide
  · rfl

theorem isSuffix_signed (pre build : List Char) : IsSuffix (signed '-' pre ++ signed '+' build) := by
  unfold IsSuffix signed
  split <;> split <;> simp <;> decide

theorem normalize_render (h : v.WellFormed) : normalize v.render.toList = v.render.toList := by
  obtain ⟨core, hrender, hdigits, hhead, hlength⟩ := exists_render_eq v
  have hplain : Text.NoBlank core := by
    intro c hc
    rcases hdigits c hc with hdigit | rfl
    · exact plain_identChar (by simp [isIdentChar, hdigit])
    · rfl
  have hend : Text.EndsPlain (signed '-' v.pre.toList ++ signed '+' v.build.toList) := by
    intro c hc
    rcases List.mem_append.1 (List.mem_of_mem_getLast? hc) with hc | hc
    · exact plain_signed rfl (plain_identifiers h.pre) c hc
    · exact plain_signed rfl (plain_identifiers h.build) c hc
  have hmark : dropV core = core := dropV_of_unmarked fun c hc => by
    have hrange := isDigit_iff.1 (hhead c hc)
    constructor <;> rintro rfl <;> revert hrange <;> decide
  rw [hrender, normalize_core (isCore_of_digits hdigits) hplain (isSuffix_signed _ _), hmark,
    padCore_of_le (Nat.le_of_eq hlength.symm), Text.trimEnd_of_endsPlain hend]

/-! ## Long cores -/

/-- How many dots stand in the core of a text. -/
def dots (s : List Char) : Nat := (s.takeWhile inCore).count '.'

theorem dots_append (hcore : IsCore core) (hsuffix : IsSuffix suffix) : dots (core ++ suffix) = core.count '.' := by
  rw [dots, (span_append hcore hsuffix).1]

theorem inCore_of_blank {c : Char} (h : Text.isBlank c = true) : inCore c = true ∧ c ≠ '.' := by
  refine ⟨?_, ?_⟩
  · simp only [inCore, Bool.and_eq_true, bne_iff_ne]
    constructor <;> rintro rfl <;> cases h
  · rintro rfl
    cases h

/-- Blanks are no dots. -/
theorem dots_trim (s : List Char) : dots (Text.trim s) = dots s := by
  obtain ⟨b, b', hs, hb, hb'⟩ := Text.exists_trim s
  generalize Text.trim s = t at hs ⊢
  subst hs
  have hcount {l : List Char} (hl : Text.AllBlank l) : l.count '.' = 0 :=
    List.count_eq_zero.2 fun h => (inCore_of_blank (hl '.' h)).2 rfl
  have hcore {l : List Char} (hl : Text.AllBlank l) : l.takeWhile inCore = l :=
    List.takeWhile_eq_self_iff.2 fun c hc => (inCore_of_blank (hl c hc)).1
  have hfront : dots (b ++ (t ++ b')) = dots (t ++ b') := by
    rw [dots, List.takeWhile_append_of_pos fun c hc => (inCore_of_blank (hb c hc)).1, List.count_append, hcount hb,
      Nat.zero_add]
    rfl
  rw [List.append_assoc, hfront, dots, dots, List.takeWhile_append]
  split
  · rename_i hall
    rw [(List.takeWhile_prefix inCore).eq_of_length hall, List.count_append, hcore hb', hcount hb', Nat.add_zero]
  · rfl

theorem dots_dropV (s : List Char) : dots (dropV s) = dots s := by
  unfold dropV
  split <;> simp [dots, inCore]

/-- A core that is long enough is not filled up. -/
theorem dots_normalize (h : 2 ≤ dots s) : dots (normalize s) = dots s := by
  have hdots : dots (dropV (Text.trim s)) = dots s := by rw [dots_dropV, dots_trim]
  have hpad : padCore ((dropV (Text.trim s)).takeWhile inCore) = (dropV (Text.trim s)).takeWhile inCore := by
    apply padCore_of_le
    rw [Text.length_split]
    exact Nat.succ_le_succ (Nat.le_trans h hdots.ge)
  rw [normalize_eq, padded, hpad, List.takeWhile_append_dropWhile, hdots]

theorem dots_render (v : Version) : dots v.render.toList = 2 := by
  obtain ⟨core, hrender, hdigits, -, hlength⟩ := exists_render_eq v
  rw [Text.length_split] at hlength
  rw [hrender, dots_append (isCore_of_digits hdigits) (isSuffix_signed _ _)]
  omega

end Version

/-! ## The reading of a text -/

theorem readVersion_eq_ok {text : String} {v : Version} :
    readVersion text = .ok v ↔ Version.readChars (Version.normalize text.toList) = .ok v := mapError_eq_ok

/-- Texts with one strict form are read alike. -/
theorem readVersion_congr {text text' : String} (h : Version.normalize text.toList = Version.normalize text'.toList)
    (v : Version) :
    readVersion text = .ok v ↔ readVersion text' = .ok v := by
  rw [readVersion_eq_ok, readVersion_eq_ok, h]

theorem readVersion_render {v : Version} (h : v.WellFormed) : readVersion v.render = .ok v := by
  rw [readVersion_eq_ok, Version.normalize_render h]
  exact Version.readChars_render h

namespace Version

variable {text before behind core suffix : String} {v : Version}

theorem readVersion_blank (hbefore : Text.AllBlank before.toList) (hbehind : Text.AllBlank behind.toList) :
    readVersion (before ++ text ++ behind) = .ok v ↔ readVersion text = .ok v := by
  refine readVersion_congr ?_ v
  rw [String.toList_append, String.toList_append, normalize_eq, normalize_eq, Text.trim_append_blank hbefore hbehind]

theorem readVersion_marked {mark : Char} (hmark : mark = 'v' ∨ mark = 'V')
    (htext : Text.BeginsPlain text.toList) (hunmarked : Version.Unmarked text.toList) :
    readVersion (String.singleton mark ++ text) = .ok v ↔ readVersion text = .ok v := by
  have hplain : Text.isBlank mark = false := by rcases hmark with rfl | rfl <;> rfl
  have hdrop (s : List Char) : dropV (mark :: s) = s := by rcases hmark with rfl | rfl <;> rfl
  have hbegin : Text.BeginsPlain ([mark] ++ text.toList) := by simpa [Text.BeginsPlain] using hplain
  have hend : Text.EndsPlain [mark] := by simpa [Text.EndsPlain] using hplain
  have hdrop' : dropV (Text.trimEnd text.toList) = Text.trimEnd text.toList :=
    dropV_of_unmarked fun c hc => hunmarked c (Text.mem_head?_trimEnd hc)
  refine readVersion_congr ?_ v
  rw [String.toList_append, String.toList_singleton, normalize_eq, normalize_eq, Text.trim, Text.trim,
    Text.trimStart_of_beginsPlain htext, Text.trimStart_of_beginsPlain hbegin, Text.trimEnd_append hend, hdrop',
    List.singleton_append, hdrop]

theorem readVersion_padded (hcore : IsCore core.toList) (hplain : Text.NoBlank core.toList)
    (hlength : (Text.split '.' core.toList).length ≤ 2) (hsuffix : IsSuffix suffix.toList) :
    readVersion (core ++ suffix) = .ok v ↔ readVersion (core ++ ".0" ++ suffix) = .ok v := by
  have hcore' : IsCore (core.toList ++ ['.', '0']) :=
    List.forall_mem_append.2 ⟨hcore, List.forall_mem_cons.2 ⟨rfl, List.forall_mem_singleton.2 rfl⟩⟩
  have hplain' : Text.NoBlank (core.toList ++ ['.', '0']) :=
    List.forall_mem_append.2 ⟨hplain, List.forall_mem_cons.2 ⟨rfl, List.forall_mem_singleton.2 rfl⟩⟩
  have hdrop : dropV (core.toList ++ ['.', '0']) = dropV core.toList ++ ['.', '0'] := dropV_append _ (by decide)
  refine readVersion_congr ?_ v
  rw [String.toList_append, String.toList_append, String.toList_append]
  show _ = normalize (core.toList ++ ['.', '0'] ++ suffix.toList)
  rw [normalize_core hcore hplain hsuffix, normalize_core hcore' hplain' hsuffix, hdrop,
    padCore_zero (by rwa [length_split_dropV])]

theorem not_readVersion_long (hcore : IsCore core.toList) (hsuffix : IsSuffix suffix.toList)
    (hlength : 3 < (Text.split '.' core.toList).length) : readVersion (core ++ suffix) ≠ .ok v := by
  intro h
  have hstrict := (exists_of_readChars (readVersion_eq_ok.1 h)).2
  have hdots : dots (core ++ suffix).toList = core.toList.count '.' := by
    rw [String.toList_append, dots_append hcore hsuffix]
  rw [Text.length_split] at hlength
  have hnormal := dots_normalize (s := (core ++ suffix).toList) (by omega)
  rw [hstrict, dots_render] at hnormal
  omega

end Version

/-- A reader takes every strict text for what it is, and leaves it open to say the same in other ways. -/
structure ReadsLeniently (read : String → Except Fault Version) : Prop where
  strict : ∀ text v, Version.read text = .ok v → read text = .ok v
  blank : ∀ before text behind : String, Text.AllBlank before.toList → Text.AllBlank behind.toList →
    ∀ v, read (before ++ text ++ behind) = .ok v ↔ read text = .ok v
  marked : ∀ (mark : Char) (text : String), mark = 'v' ∨ mark = 'V' →
    Text.BeginsPlain text.toList → Version.Unmarked text.toList →
    ∀ v, read (String.singleton mark ++ text) = .ok v ↔ read text = .ok v
  /-- A core of one or two numbers is filled up with zeros. -/
  padded : ∀ core suffix : String, Version.IsCore core.toList → Text.NoBlank core.toList →
    (Text.split '.' core.toList).length ≤ 2 → Version.IsSuffix suffix.toList →
    ∀ v, read (core ++ suffix) = .ok v ↔ read (core ++ ".0" ++ suffix) = .ok v
  long : ∀ core suffix : String, Version.IsCore core.toList → Version.IsSuffix suffix.toList →
    3 < (Text.split '.' core.toList).length → ∀ v, read (core ++ suffix) ≠ .ok v
  /-- What is read is read once more from the way it is written. -/
  written : ∀ text v, read text = .ok v → read v.render = .ok v

/-- Strict texts are what well-formed versions are written as. They are read as they are, and other texts through
them. -/
theorem readVersion_lenient :
    (∀ text v, Version.read text = .ok v ↔ v.WellFormed ∧ text = v.render) ∧ ReadsLeniently readVersion := by
  refine ⟨fun _ _ => Version.read_eq_ok_iff, ?_⟩
  constructor
  case strict =>
    intro text v h
    obtain ⟨hv, rfl⟩ := Version.read_eq_ok_iff.1 h
    exact readVersion_render hv
  case blank => exact fun _ _ _ hbefore hbehind _ => Version.readVersion_blank hbefore hbehind
  case marked => exact fun _ _ hmark htext hunmarked _ => Version.readVersion_marked hmark htext hunmarked
  case padded => exact fun _ _ hcore hplain hlength hsuffix _ => Version.readVersion_padded hcore hplain hlength hsuffix
  case long => exact fun _ _ hcore hsuffix hlength _ => Version.not_readVersion_long hcore hsuffix hlength
  case written => exact fun _ _ h => readVersion_render (Version.exists_of_readChars (readVersion_eq_ok.1 h)).1

/-- A candidate for a release, with blanks around it, a mark in front and a number too few; and a text with a number too
many. -/
theorem readVersion_lenient_candidate :
    readVersion "\t v1.0-rc.1+7\n" = .ok ⟨1, 0, 0, "rc.1", "7"⟩ ∧
      readVersion "1.0.0-rc.1+7" = .ok ⟨1, 0, 0, "rc.1", "7"⟩ ∧ ∀ v, readVersion "1.2.3.4-rc.1" ≠ .ok v := by
  obtain ⟨hstrict, hlenient⟩ := readVersion_lenient
  have hfull : readVersion "1.0.0-rc.1+7" = .ok ⟨1, 0, 0, "rc.1", "7"⟩ :=
    hlenient.strict _ _ ((hstrict _ _).2 ⟨by decide, by decide +kernel⟩)
  have hshort : readVersion ("1.0" ++ "-rc.1+7") = .ok ⟨1, 0, 0, "rc.1", "7"⟩ :=
    (hlenient.padded "1.0" "-rc.1+7" (by decide) (by decide) (by decide) (by decide) _).2 hfull
  have hmarked : readVersion (String.singleton 'v' ++ "1.0-rc.1+7") = .ok ⟨1, 0, 0, "rc.1", "7"⟩ :=
    (hlenient.marked 'v' "1.0-rc.1+7" (.inl rfl) (by decide) (by decide) _).2 hshort
  refine ⟨?_, hfull, ?_⟩
  · exact (hlenient.blank "\t " "v1.0-rc.1+7" "\n" (by decide) (by decide) _).2 hmarked
  · exact hlenient.long "1.2.3.4" "-rc.1" (by decide) (by decide) (by decide)

end MultiCluster
