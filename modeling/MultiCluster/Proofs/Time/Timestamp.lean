/-
Which texts are timestamps, and what instants they name. A timestamp is made of numbers of so many digits with
marks between them, a fraction that may be left out, and an offset (`Timestamp.Writes`); its instant is the local
time less the offset, so it is one in UTC (`Timestamp.instant`). The readers take exactly such pieces off the front
of a text, and `read_eq_ok_iff` puts them together: the texts that are read are the timestamps whose parts are in
range, and what is read is their instant.
-/
import MultiCluster.Proofs.Except
import MultiCluster.Time.Instant
import Mathlib
namespace MultiCluster

/-! ## The form of a timestamp -/

def IsDigit (b : UInt8) : Prop := 48 ≤ b.toNat ∧ b.toNat ≤ 57

/-- The number that digits write. -/
def numberOf (ds : Instant.Bytes) : Nat := ds.foldl (fun v b => v * 10 + (b.toNat - 48)) 0

/-- The bytes are `n` digits that write `v`. -/
structure Numeral (n v : Nat) (ds : Instant.Bytes) : Prop where
  length : ds.length = n
  digits : ∀ b ∈ ds, IsDigit b
  value : numberOf ds = v

/-- Three numbers with marks between them, as a date and a time of day are written. The first has `n` digits, the others
two. -/
def WritesThree (n : Nat) (mark : UInt8) (x y z : Nat) (s : Instant.Bytes) : Prop :=
  ∃ xs ys zs, Numeral n x xs ∧ Numeral 2 y ys ∧ Numeral 2 z zs ∧ s = xs ++ mark :: (ys ++ mark :: zs)

/-- A fraction of a second as nanoseconds: a point and digits, of which nine count, or nothing. -/
inductive WritesFraction : Nat → Instant.Bytes → Prop
  | absent : WritesFraction 0 []
  | digits {ds : Instant.Bytes} : ds ≠ [] → (∀ b ∈ ds, IsDigit b) →
      WritesFraction (numberOf (ds.take 9) * Nat.pow 10 (9 - ds.length)) (0x2E :: ds)

/-- The mark in front of hours and minutes, and the sign it stands for. -/
inductive WritesSign : Int → Instant.Bytes → Prop
  | plus : WritesSign 1 [0x2B]
  | hyphen : WritesSign (-1) [0x2D]
  | minus : WritesSign (-1) [0xE2, 0x88, 0x92]

/-- An offset in seconds: `Z`, or hours and minutes behind a sign. -/
inductive WritesOffset : Int → Instant.Bytes → Prop
  | utc {z : UInt8} : z = 0x5A ∨ z = 0x7A → WritesOffset 0 [z]
  | away {sign : Int} {h m : Nat} {mark hs ms : Instant.Bytes} :
    WritesSign sign mark → Numeral 2 h hs → Numeral 2 m ms → m ≤ 59 →
      WritesOffset (sign * (h * 3600 + m * 60 : Nat)) (mark ++ (hs ++ 0x3A :: ms))

/-- What a timestamp says: a local date and time of day, and the seconds by which these are ahead of UTC. -/
structure Timestamp where
  year : Nat
  month : Nat
  day : Nat
  hour : Nat
  minute : Nat
  second : Nat
  nanos : Nat
  offset : Int

namespace Timestamp

/-- The parts are in their ranges; a second may be a leap second. -/
structure Valid (w : Timestamp) : Prop where
  month : 1 ≤ w.month ∧ w.month ≤ 12
  day : 1 ≤ w.day ∧ w.day ≤ Instant.daysInMonth w.year w.month
  hour : w.hour ≤ 23
  minute : w.minute ≤ 59
  second : w.second ≤ 60
  offset : w.offset.natAbs < 86400

/-- The instant in UTC; a leap second is counted in the nanoseconds of the second before it. -/
def instant (w : Timestamp) : Instant where
  seconds := Instant.daysFromDate w.year w.month w.day * 86400 +
    (w.hour * 3600 + w.minute * 60 + min w.second 59 : Nat) - w.offset
  nanos := w.nanos + (if w.second = 60 then 1000000000 else 0)

/-- The bytes write the parts in their order, between date and time a `T`, a `t` or a space. -/
def Writes (w : Timestamp) (s : Instant.Bytes) : Prop :=
  ∃ date clock fs os : Instant.Bytes, ∃ mark : UInt8, WritesThree 4 0x2D w.year w.month w.day date ∧
    (mark = 0x54 ∨ mark = 0x74 ∨ mark = 0x20) ∧ WritesThree 2 0x3A w.hour w.minute w.second clock ∧
    WritesFraction w.nanos fs ∧ WritesOffset w.offset os ∧ s = date ++ mark :: (clock ++ (fs ++ os))

end Timestamp

namespace Instant

variable {s r : Bytes}

/-! ## The calendar -/

/-- Days are counted from the beginning of 1970. -/
theorem daysFromDate_epoch : daysFromDate 1970 1 1 = 0 := rfl

theorem daysFromDate_next_day (y : Int) (m d : Nat) : daysFromDate y m (d + 1) = daysFromDate y m d + 1 := by
  simp only [daysFromDate]
  omega

/-- A month begins as many days after the one before it as that one has. -/
theorem daysFromDate_next_month (y : Int) {m : Nat} (h : 1 ≤ m ∧ m < 12) :
    daysFromDate y (m + 1) 1 = daysFromDate y m 1 + daysInMonth y m := by
  obtain ⟨hfirst, hlast⟩ := h
  by_cases hfebruary : m = 2
  · subst hfebruary
    simp only [daysFromDate, daysInMonth, isLeapYear]
    -- the length of the year decides that of the month
    split <;> simp_all only [Bool.and_eq_true, Bool.or_eq_true, beq_iff_eq, bne_iff_ne]
    · simp
      omega
    · simp
      omega
  · interval_cases m <;> simp [daysFromDate, daysInMonth] at * <;> omega

/-- A year begins 31 days after its last month. -/
theorem daysFromDate_next_year (y : Int) : daysFromDate (y + 1) 1 1 = daysFromDate y 12 1 + daysInMonth y 12 := by
  simp [daysFromDate, daysInMonth]
  omega

/-! ## Digits and marks -/

instance : DecidablePred IsDigit := fun b => inferInstanceAs (Decidable (48 ≤ b.toNat ∧ b.toNat ≤ 57))

theorem digit_eq_ok {b : UInt8} {d : Nat} : digit b = .ok d ↔ IsDigit b ∧ d = b.toNat - 48 := by
  unfold digit IsDigit
  split <;> simp_all [eq_comm]

theorem digits_from {n v w : Nat} : digits n v s = .ok (w, r) ↔ ∃ ds : Bytes, s = ds ++ r ∧ ds.length = n ∧
    (∀ b ∈ ds, IsDigit b) ∧ ds.foldl (fun v b => v * 10 + (b.toNat - 48)) v = w := by
  -- on the count of digits, for any value read so far
  induction n generalizing v s with
  | zero =>
    constructor
    · rintro ⟨⟩
      exact ⟨[], rfl, rfl, by simp, rfl⟩
    · rintro ⟨ds, rfl, hlength, -, rfl⟩
      rw [List.length_eq_zero_iff.1 hlength]
      rfl
  | succ n ih =>
    cases s with
    | nil =>
      constructor
      · rintro ⟨⟩
      · rintro ⟨ds, hs, hlength, -⟩
        simp [(List.append_eq_nil_iff.1 hs.symm).1] at hlength
    | cons b s =>
      rw [digits, bind_eq_ok_iff]
      constructor
      · rintro ⟨d, hd, h⟩
        obtain ⟨hb, rfl⟩ := digit_eq_ok.1 hd
        obtain ⟨ds, rfl, rfl, hds, hw⟩ := ih.1 h
        exact ⟨b :: ds, rfl, rfl, List.forall_mem_cons.2 ⟨hb, hds⟩, hw⟩
      · rintro ⟨_ | ⟨c, ds⟩, hs, hlength, hdigits, hw⟩
        · cases hlength
        · obtain ⟨hb, hds⟩ := List.forall_mem_cons.1 hdigits
          obtain ⟨rfl, rfl⟩ := List.cons.inj hs
          exact ⟨_, digit_eq_ok.2 ⟨hb, rfl⟩, ih.2 ⟨ds, rfl, Nat.succ.inj hlength, hds, hw⟩⟩

theorem digits_eq_ok {n v : Nat} : digits n 0 s = .ok (v, r) ↔ ∃ ds, Numeral n v ds ∧ s = ds ++ r := by
  rw [digits_from]
  constructor
  · rintro ⟨ds, rfl, hlength, hdigits, hvalue⟩
    exact ⟨ds, ⟨hlength, hdigits, hvalue⟩, rfl⟩
  · rintro ⟨ds, h, rfl⟩
    exact ⟨ds, rfl, h.length, h.digits, h.value⟩

theorem digits_append {n v : Nat} {ds : Bytes} (h : Numeral n v ds) : digits n 0 (ds ++ r) = .ok (v, r) :=
  digits_eq_ok.2 ⟨ds, h, rfl⟩

theorem oneOf_eq_ok {choice : List Char} :
    oneOf choice s = .ok r ↔ ∃ b, (∃ c ∈ choice, c.toNat = b.toNat) ∧ s = b :: r := by
  cases s with
  | nil => simp [oneOf]
  | cons b s =>
    rw [oneOf]
    split <;> simp_all

/-- The reader of one mark, the byte of the character. -/
theorem oneOf_singleton {c : Char} {mark : UInt8} (h : c.toNat = mark.toNat) : oneOf [c] s = .ok r ↔ s = mark :: r := by
  simp [oneOf_eq_ok, h, UInt8.toNat_inj]

theorem oneOf_colon : oneOf [':'] s = .ok r ↔ s = 0x3A :: r := oneOf_singleton rfl

theorem oneOf_dateMark :
    oneOf ['T', 't', ' '] s = .ok r ↔ ∃ mark : UInt8, (mark = 0x54 ∨ mark = 0x74 ∨ mark = 0x20) ∧ s = mark :: r := by
  have hmark (b : UInt8) : (∃ c ∈ ['T', 't', ' '], c.toNat = b.toNat) ↔ b = 0x54 ∨ b = 0x74 ∨ b = 0x20 := by
    simp only [List.mem_cons, List.not_mem_nil, or_false, exists_eq_or_imp, exists_eq_left, ← UInt8.toNat_inj]
    simp [eq_comm]
  simp only [oneOf_eq_ok, hmark]

/-- Three numbers, the character `c` between them. -/
def readThree (n : Nat) (c : Char) (s : Bytes) : Except Fault ((Nat × Nat × Nat) × Bytes) :=
  digits n 0 s >>= fun x => oneOf [c] x.2 >>= fun s => digits 2 0 s >>= fun y => oneOf [c] y.2 >>= fun s =>
    digits 2 0 s >>= fun z => .ok ((x.1, y.1, z.1), z.2)

theorem readThree_eq_ok {n x y z : Nat} {c : Char} (mark : UInt8) (hc : c.toNat = mark.toNat) :
    readThree n c s = .ok ((x, y, z), r) ↔ ∃ t, WritesThree n mark x y z t ∧ s = t ++ r := by
  constructor
  · intro h
    obtain ⟨⟨_, s₁⟩, hx, h⟩ := bind_eq_ok h
    obtain ⟨s₂, hmark, h⟩ := bind_eq_ok h
    obtain ⟨⟨_, s₃⟩, hy, h⟩ := bind_eq_ok h
    obtain ⟨s₄, hmark', h⟩ := bind_eq_ok h
    obtain ⟨⟨_, s₅⟩, hz, ⟨⟩⟩ := bind_eq_ok h
    obtain ⟨xs, hxs, rfl⟩ := digits_eq_ok.1 hx
    obtain rfl := (oneOf_singleton hc).1 hmark
    obtain ⟨ys, hys, rfl⟩ := digits_eq_ok.1 hy
    obtain rfl := (oneOf_singleton hc).1 hmark'
    obtain ⟨zs, hzs, rfl⟩ := digits_eq_ok.1 hz
    exact ⟨_, ⟨xs, ys, zs, hxs, hys, hzs, rfl⟩, by simp⟩
  · rintro ⟨_, ⟨xs, ys, zs, hxs, hys, hzs, rfl⟩, rfl⟩
    have hassoc : xs ++ mark :: (ys ++ mark :: zs) ++ r = xs ++ mark :: (ys ++ mark :: (zs ++ r)) := by simp
    rw [hassoc]
    refine bind_eq_ok_iff.2 ⟨_, digits_append hxs, ?_⟩
    refine bind_eq_ok_iff.2 ⟨_, (oneOf_singleton hc).2 rfl, ?_⟩
    refine bind_eq_ok_iff.2 ⟨_, digits_append hys, ?_⟩
    refine bind_eq_ok_iff.2 ⟨_, (oneOf_singleton hc).2 rfl, ?_⟩
    exact bind_eq_ok_iff.2 ⟨_, digits_append hzs, rfl⟩

theorem length_three {n x y z : Nat} {mark : UInt8} (h : WritesThree n mark x y z s) : s.length = n + 6 := by
  obtain ⟨xs, ys, zs, hxs, hys, hzs, rfl⟩ := h
  simp [hxs.length, hys.length, hzs.length]

/-! ## The fraction -/

/-- No digit stands at the front of the text. -/
def Ends (s : Bytes) : Prop := ∀ b ∈ s.head?, ¬ IsDigit b

theorem fraction_append (left v : Nat) {ds : Bytes} (hds : ∀ b ∈ ds, IsDigit b) (hr : Ends r) :
    fraction left v (ds ++ r) =
    ((ds.take left).foldl (fun v b => v * 10 + (b.toNat - 48)) v * Nat.pow 10 (left - ds.length), r) := by
  induction ds generalizing left v with
  | nil =>
    cases r with
    | nil => simp [fraction]
    | cons b r =>
      have hb : digit b = .error .invalid := if_neg (hr b rfl)
      simp [fraction, hb]
  | cons b ds ih =>
    obtain ⟨hb, hds⟩ := List.forall_mem_cons.1 hds
    have hd := digit_eq_ok.2 ⟨hb, rfl⟩
    -- without a place left the digit is passed over
    cases left with
    | zero => simpa [fraction, hd] using ih 0 v hds
    | succ left => simpa [fraction, hd] using ih left (v * 10 + (b.toNat - 48)) hds

theorem exists_digits_append (s : Bytes) : ∃ ds r, s = ds ++ r ∧ (∀ b ∈ ds, IsDigit b) ∧ Ends r := by
  refine ⟨s.takeWhile (IsDigit ·), s.dropWhile (IsDigit ·), List.takeWhile_append_dropWhile.symm, ?_, ?_⟩
  · intro b hb
    simpa using List.mem_takeWhile_imp hb
  · intro b hb
    have hhead := List.head?_dropWhile_not (fun b => decide (IsDigit b)) s
    rw [Option.mem_def.1 hb] at hhead
    simpa using hhead

/-- The value is that of the digits in front of anything else; nine of them count. -/
theorem readFraction_eq_ok {n : Nat} :
    readFraction s = .ok (n, r) ↔ ∃ ds : Bytes, ds ≠ [] ∧ (∀ b ∈ ds, IsDigit b) ∧ Ends r ∧
    n = numberOf (ds.take 9) * Nat.pow 10 (9 - ds.length) ∧ s = ds ++ r := by
  constructor
  · intro h
    obtain ⟨ds, rest, rfl, hds, hrest⟩ := exists_digits_append s
    cases ds with
    | nil =>
      -- the first byte would have to be a digit
      cases rest with
      | nil => cases h
      | cons b rest =>
        obtain ⟨d, hd, -⟩ := bind_eq_ok h
        cases hrest b rfl (digit_eq_ok.1 hd).1
    | cons b ds =>
      obtain ⟨d, -, h⟩ := bind_eq_ok h
      obtain ⟨⟩ := (fraction_append 9 0 hds hrest).symm.trans (Except.ok.inj h)
      exact ⟨b :: ds, List.cons_ne_nil b ds, hds, hrest, rfl, rfl⟩
  · rintro ⟨_ | ⟨b, ds⟩, hne, hds, hr, rfl, rfl⟩
    · cases hne rfl
    · have hb := digit_eq_ok.2 ⟨(List.forall_mem_cons.1 hds).1, rfl⟩
      exact bind_eq_ok_iff.2 ⟨_, hb, congrArg Except.ok (fraction_append 9 0 hds hr)⟩

/-- The fraction behind the seconds, where one stands. -/
def optionalFraction (s : Bytes) : Except Fault (Nat × Bytes) :=
  match s with
  | 0x2E :: r => readFraction r
  | _ => .ok (0, s)

theorem exists_of_optionalFraction {n : Nat} (h : optionalFraction s = .ok (n, r)) :
    ∃ fs, WritesFraction n fs ∧ s = fs ++ r := by
  unfold optionalFraction at h
  split at h
  · obtain ⟨ds, hne, hds, -, rfl, rfl⟩ := readFraction_eq_ok.1 h
    exact ⟨_, .digits hne hds, rfl⟩
  · cases h
    exact ⟨[], .absent, rfl⟩

/-- A fraction is read as a whole where neither a digit nor a point follows it. -/
theorem optionalFraction_append {n : Nat} {fs : Bytes} (h : WritesFraction n fs) (hr : Ends r)
    (hpoint : r.head? ≠ some 0x2E) :
    optionalFraction (fs ++ r) = .ok (n, r) := by
  cases h with
  | absent =>
    rw [List.nil_append]
    unfold optionalFraction
    split
    · cases hpoint rfl
    · rfl
  | digits hne hds => exact readFraction_eq_ok.2 ⟨_, hne, hds, hr, rfl, rfl⟩

/-! ## The offset -/

theorem pair_eq_ok {a b : Nat} :
    pair s = .ok (a, b, r) ↔ ∃ x y, digit x = .ok a ∧ digit y = .ok b ∧ s = x :: y :: r := by
  rcases s with _ | ⟨x, _ | ⟨y, s⟩⟩
  · exact iff_of_false nofun (by simp)
  · exact iff_of_false nofun (by simp)
  · rw [pair, bind_eq_ok_iff]
    constructor
    · rintro ⟨_, hx, h⟩
      obtain ⟨_, hy, ⟨⟩⟩ := bind_eq_ok h
      exact ⟨x, y, hx, hy, rfl⟩
    · rintro ⟨_, _, hx, hy, ⟨⟩⟩
      exact ⟨a, hx, bind_eq_ok_iff.2 ⟨b, hy, rfl⟩⟩

theorem pair_append {v : Nat} {ds : Bytes} (h : Numeral 2 v ds) :
    ∃ a b, pair (ds ++ r) = .ok (a, b, r) ∧ b ≤ 9 ∧ a * 10 + b = v := by
  obtain ⟨x, y, rfl⟩ := List.length_eq_two.1 h.length
  have hx := h.digits x (by simp)
  have hy := h.digits y (by simp)
  refine ⟨_, _, pair_eq_ok.2 ⟨x, y, digit_eq_ok.2 ⟨hx, rfl⟩, digit_eq_ok.2 ⟨hy, rfl⟩, rfl⟩, ?_, ?_⟩
  · have := hy.2
    omega
  · rw [← h.value]
    simp [numberOf]

theorem numeral_of_pair {a b : Nat} (h : pair s = .ok (a, b, r)) :
    b ≤ 9 ∧ ∃ ds, Numeral 2 (a * 10 + b) ds ∧ s = ds ++ r := by
  obtain ⟨x, y, ha, hb, rfl⟩ := pair_eq_ok.1 h
  obtain ⟨hx, rfl⟩ := digit_eq_ok.1 ha
  obtain ⟨hy, rfl⟩ := digit_eq_ok.1 hb
  refine ⟨?_, [x, y], ⟨rfl, ?_, ?_⟩, rfl⟩
  · have := hy.2
    omega
  · rintro b (_ | ⟨_, _ | ⟨_, ⟨⟩⟩⟩) <;> assumption
  · simp [numberOf]

theorem readMinutes_eq (s : Bytes) :
    readMinutes s = pair s >>= fun p => if p.1 ≤ 5 then .ok (p.1 * 10 + p.2.1, p.2.2) else .error .outOfRange := rfl

theorem readMinutes_eq_ok {m : Nat} : readMinutes s = .ok (m, r) ↔ ∃ ms, Numeral 2 m ms ∧ m ≤ 59 ∧ s = ms ++ r := by
  rw [readMinutes_eq]
  constructor
  · intro h
    obtain ⟨⟨a, b, rest⟩, hpair, hminutes⟩ := bind_eq_ok h
    obtain ⟨hb, ms, hms, rfl⟩ := numeral_of_pair hpair
    -- the first digit decides, whatever the second one is
    split at hminutes
    · cases hminutes
      exact ⟨ms, hms, by simp only at *; omega, rfl⟩
    · cases hminutes
  · rintro ⟨ms, hms, hm, rfl⟩
    obtain ⟨a, b, hpair, hb, rfl⟩ := pair_append (r := r) hms
    exact bind_eq_ok_iff.2 ⟨_, hpair, if_pos (by omega)⟩

/-- Hours and minutes behind a sign. -/
def readAway (sign : Int) (s : Bytes) : Except Fault (Int × Bytes) := do
  let (a, b, s) ← pair s
  let s ← oneOf [':'] s
  let (minutes, s) ← readMinutes s
  return (sign * ((a * 10 + b) * 3600 + minutes * 60 : Nat), s)

theorem readAway_eq_ok {sign o : Int} :
    readAway sign s = .ok (o, r) ↔ ∃ h m hs ms, Numeral 2 h hs ∧ Numeral 2 m ms ∧ m ≤ 59 ∧
    o = sign * (h * 3600 + m * 60 : Nat) ∧ s = hs ++ 0x3A :: (ms ++ r) := by
  constructor
  · intro h
    obtain ⟨⟨a, b, s₁⟩, hpair, h⟩ := bind_eq_ok h
    obtain ⟨s₂, hcolon, h⟩ := bind_eq_ok h
    obtain ⟨⟨m, s₃⟩, hminutes, ⟨⟩⟩ := bind_eq_ok h
    obtain ⟨-, hs, hhs, rfl⟩ := numeral_of_pair hpair
    obtain ⟨ms, hms, hm, rfl⟩ := readMinutes_eq_ok.1 hminutes
    obtain rfl := oneOf_colon.1 hcolon
    exact ⟨_, m, hs, ms, hhs, hms, hm, rfl, rfl⟩
  · rintro ⟨h, m, hs, ms, hhs, hms, hm, rfl, rfl⟩
    obtain ⟨a, b, hpair, -, rfl⟩ := pair_append (r := 0x3A :: (ms ++ r)) hhs
    have hcolon : oneOf [':'] (0x3A :: (ms ++ r)) = .ok (ms ++ r) := oneOf_colon.2 rfl
    have hminutes : readMinutes (ms ++ r) = .ok (m, r) := readMinutes_eq_ok.2 ⟨ms, hms, hm, rfl⟩
    exact bind_eq_ok_iff.2 ⟨_, hpair, bind_eq_ok_iff.2 ⟨_, hcolon, bind_eq_ok_iff.2 ⟨_, hminutes, rfl⟩⟩⟩

theorem readOffset_cons (b : UInt8) (s : Bytes) : readOffset (b :: s) =
    if b = 0x5A ∨ b = 0x7A then .ok (0, s)
    else if b = 0x2B then readAway 1 s
    else if b = 0x2D then readAway (-1) s
    else match b, s with
      | 0xE2, 0x88 :: 0x92 :: r => readAway (-1) r
      | _, _ => .error .invalid := rfl

theorem exists_of_readOffset {o : Int} (h : readOffset s = .ok (o, r)) : ∃ os, WritesOffset o os ∧ s = os ++ r := by
  have away {sign : Int} {mark s : Bytes} (hmark : WritesSign sign mark) (h : readAway sign s = .ok (o, r)) :
      ∃ os, WritesOffset o os ∧ mark ++ s = os ++ r := by
    obtain ⟨h, m, hs, ms, hhs, hms, hm, rfl, rfl⟩ := readAway_eq_ok.1 h
    exact ⟨_, .away hmark hhs hms hm, by simp⟩
  cases s with
  | nil => cases h
  | cons b s =>
    rw [readOffset_cons] at h
    split at h
    · rename_i hz
      cases h
      exact ⟨[b], .utc hz, rfl⟩
    · split at h
      · rename_i hb
        exact hb ▸ away .plus h
      · split at h
        · rename_i hb
          exact hb ▸ away .hyphen h
        · split at h
          · exact away .minus h
          · cases h

theorem readOffset_append {o : Int} {os : Bytes} (h : WritesOffset o os) : readOffset (os ++ r) = .ok (o, r) := by
  cases h with
  | utc hz => exact if_pos hz
  | @away _ h m mark hs ms hmark hhs hms hm =>
    have haway (sign : Int) : readAway sign (hs ++ 0x3A :: (ms ++ r)) = .ok (sign * (h * 3600 + m * 60 : Nat), r) :=
      readAway_eq_ok.2 ⟨h, m, hs, ms, hhs, hms, hm, rfl, rfl⟩
    rw [List.append_assoc, List.append_assoc]
    cases hmark with
    | plus => exact haway 1
    | hyphen => exact haway (-1)
    | minus => exact haway (-1)

/-- What follows a fraction ends it. -/
theorem ends_offset {o : Int} {os : Bytes} (h : WritesOffset o os) : Ends os ∧ os.head? ≠ some 0x2E := by
  have hfirst : ∃ b rest, os = b :: rest ∧ ¬ IsDigit b ∧ b ≠ 0x2E := by
    cases h with
    | utc hz => rcases hz with rfl | rfl <;> exact ⟨_, _, rfl, by decide, by decide⟩
    | away hmark => cases hmark <;> exact ⟨_, _, rfl, by decide, by decide⟩
  obtain ⟨b, rest, rfl, hdigit, hpoint⟩ := hfirst
  simpa [Ends] using ⟨hdigit, hpoint⟩

/-- An offset is of whole minutes. -/
theorem minutes_offset {o : Int} {os : Bytes} (h : WritesOffset o os) : o % 60 = 0 := by
  cases h with
  | utc => rfl
  | away hmark => cases hmark <;> omega

/-! ## The whole text -/

/-- The reader as a chain of the readers of its parts. -/
theorem readBytes_eq (s : Bytes) : readBytes s =
    (if s.length < secondsEnd then .error .tooShort else do
      let ((year, month, day), s) ← readThree 4 '-' s
      if month = 0 ∨ month > 12 ∨ day = 0 ∨ day > daysInMonth year month then .error .outOfRange else do
        let s ← oneOf ['T', 't', ' '] s
        let ((hour, minute, second), s) ← readThree 2 ':' s
        let (nanos, s) ← optionalFraction s
        if hour > 23 ∨ minute > 59 ∨ second > 60 then .error .outOfRange else do
          let (offset, s) ← readOffset s
          if ¬ s.isEmpty then .error .tooLong
          else if offset.natAbs > 86340 then .error .outOfRange
          else
            let (second, nanos) := if second = 60 then (59, nanos + 1000000000) else (second, nanos)
            .ok ⟨daysFromDate year month day * 86400 + (hour * 3600 + minute * 60 + second : Nat) - offset,
              nanos⟩) := by
  have hfraction {α : Type} (s : Bytes) (f : Nat × Bytes → Except Fault α) : optionalFraction s >>= f =
      (match s with
      | 0x2E :: r => readFraction r >>= f
      | _ => f (0, s)) := by
    unfold optionalFraction
    split <;> rfl
  -- the reader goes on inside the two branches that look for a point
  simp only [readThree, bind_assoc, hfraction]
  rfl

/-- The reader's last step: a leap second becomes the second before it. -/
theorem ok_instant {year month day hour minute second nanos : Nat} {offset : Int} (h : second ≤ 60) :
    (let (second, nanos) := if second = 60 then (59, nanos + 1000000000) else (second, nanos);
      (.ok ⟨daysFromDate year month day * 86400 + (hour * 3600 + minute * 60 + second : Nat) - offset, nanos⟩ :
        Except Fault Instant)) = .ok (Timestamp.instant ⟨year, month, day, hour, minute, second, nanos, offset⟩) := by
  by_cases hleap : second = 60
  · simp [Timestamp.instant, hleap]
  · have : second ≤ 59 := by omega
    simp [Timestamp.instant, hleap, this]

/-- What is read is the instant of the timestamp that the text is. -/
theorem exists_of_readBytes {t : Instant} (h : readBytes s = .ok t) :
    ∃ w : Timestamp, w.Valid ∧ w.Writes s ∧ w.instant = t := by
  rw [readBytes_eq] at h
  obtain ⟨-, h⟩ := guard_eq_ok.1 h
  obtain ⟨⟨⟨year, month, day⟩, s₁⟩, h₁, h⟩ := bind_eq_ok h
  obtain ⟨hcalendar, h⟩ := guard_eq_ok.1 h
  obtain ⟨s₂, h₂, h⟩ := bind_eq_ok h
  obtain ⟨⟨⟨hour, minute, second⟩, s₃⟩, h₃, h⟩ := bind_eq_ok h
  obtain ⟨⟨nanos, s₄⟩, h₄, h⟩ := bind_eq_ok h
  obtain ⟨htime, h⟩ := guard_eq_ok.1 h
  obtain ⟨⟨offset, s₅⟩, h₅, h⟩ := bind_eq_ok h
  obtain ⟨hend, h⟩ := guard_eq_ok.1 h
  obtain ⟨haway, hinstant⟩ := guard_eq_ok.1 h
  obtain ⟨date, hdate, rfl⟩ := (readThree_eq_ok 0x2D rfl).1 h₁
  obtain ⟨mark, hmark, rfl⟩ := oneOf_dateMark.1 h₂
  obtain ⟨clock, hclock, rfl⟩ := (readThree_eq_ok 0x3A rfl).1 h₃
  obtain ⟨fs, hfs, rfl⟩ := exists_of_optionalFraction h₄
  obtain ⟨os, hos, rfl⟩ := exists_of_readOffset h₅
  obtain rfl := List.isEmpty_iff.1 (not_not.1 hend)
  refine ⟨⟨year, month, day, hour, minute, second, nanos, offset⟩, ?valid, ?writes, ?instant⟩
  case valid => constructor <;> dsimp only <;> omega
  case writes => exact ⟨date, clock, fs, os, mark, hdate, hmark, hclock, hfs, hos, by rw [List.append_nil]⟩
  case instant =>
    have hsecond : second ≤ 60 := by omega
    exact Except.ok.inj ((ok_instant hsecond).symm.trans hinstant)

/-- Every timestamp is read. -/
theorem readBytes_timestamp {w : Timestamp} (hvalid : w.Valid) (hwrites : w.Writes s) :
    readBytes s = .ok w.instant := by
  obtain ⟨date, clock, fs, os, mark, hdate, hmark, hclock, hfs, hos, rfl⟩ := hwrites
  obtain ⟨hfollow, hpoint⟩ := ends_offset hos
  have hlength : secondsEnd ≤ (date ++ mark :: (clock ++ (fs ++ os))).length := by
    simp [secondsEnd, length_three hdate, length_three hclock]
    omega
  have hcalendar := hvalid.month
  have hday := hvalid.day
  have hhour := hvalid.hour
  have hminute := hvalid.minute
  have hsecond := hvalid.second
  have haway := hvalid.offset
  have hminutes := minutes_offset hos
  rw [readBytes_eq]
  refine guard_eq_ok.2 ⟨by omega, ?_⟩
  refine bind_eq_ok_iff.2 ⟨_, (readThree_eq_ok 0x2D rfl).2 ⟨date, hdate, rfl⟩, ?_⟩
  refine guard_eq_ok.2 ⟨by omega, ?_⟩
  refine bind_eq_ok_iff.2 ⟨_, oneOf_dateMark.2 ⟨mark, hmark, rfl⟩, ?_⟩
  refine bind_eq_ok_iff.2 ⟨_, (readThree_eq_ok 0x3A rfl).2 ⟨clock, hclock, rfl⟩, ?_⟩
  refine bind_eq_ok_iff.2 ⟨_, optionalFraction_append hfs hfollow hpoint, ?_⟩
  refine guard_eq_ok.2 ⟨by omega, ?_⟩
  refine bind_eq_ok_iff.2 ⟨(w.offset, []), by simpa using readOffset_append (r := []) hos, ?_⟩
  -- a whole number of minutes below a day is at most a day less one minute
  exact guard_eq_ok.2 ⟨by simp, guard_eq_ok.2 ⟨by omega, ok_instant hsecond⟩⟩

end Instant

namespace Timestamp

/-- The text is a timestamp of the instant. -/
def Names (text : String) (t : Instant) : Prop := ∃ w : Timestamp, w.Valid ∧ w.Writes text.toUTF8.toList ∧ w.instant = t

/-- The texts that are read are the timestamps, each as its instant. -/
theorem read_eq_ok_iff {text : String} {t : Instant} : Instant.read text = .ok t ↔ Names text t := by
  constructor
  · exact Instant.exists_of_readBytes
  · rintro ⟨w, hvalid, hwrites, rfl⟩
    exact Instant.readBytes_timestamp hvalid hwrites

instance (text : String) (t : Instant) : Decidable (Names text t) :=
  @decidable_of_iff _ _ read_eq_ok_iff (decidableEqExcept _ _)

theorem Names.unique {text : String} {t t' : Instant} (h : Names text t) : Names text t' ↔ t = t' := by
  rw [← read_eq_ok_iff, read_eq_ok_iff.2 h, Except.ok.injEq]

/-- The text is a timestamp. -/
def IsTimestamp (text : String) : Prop := ∃ t, Names text t

theorem isOk_read {text : String} : (Instant.read text).isOk ↔ IsTimestamp text := by
  constructor
  · intro h
    obtain ⟨t, ht⟩ := exists_of_isOk h
    exact ⟨t, read_eq_ok_iff.1 ht⟩
  · rintro ⟨t, ht⟩
    rw [read_eq_ok_iff.2 ht]
    rfl

instance (text : String) : Decidable (IsTimestamp text) := decidable_of_iff _ isOk_read

example : Names "2024-02-29T23:30:00.5-01:00" ⟨1709253000, 500000000⟩ := by decide +kernel

end Timestamp

end MultiCluster
