/-
Points in time. An instant is a count of seconds since the beginning of 1970 in UTC, with the
nanoseconds inside the second; a leap second is the second before it with a billion nanoseconds and
more. `Instant.read` takes the RFC 3339 form with any offset and says what is wrong with other texts.
-/
namespace MultiCluster

structure Instant where
  seconds : Int
  nanos : Nat
  deriving DecidableEq, Repr

namespace Instant

/-- Why a text is no timestamp. -/
inductive Fault where
  | invalid
  | outOfRange
  | tooShort
  | tooLong
  deriving DecidableEq, Repr

def Fault.message : Fault → String
  | .invalid => "input contains invalid characters"
  | .outOfRange => "input is out of range"
  | .tooShort => "premature end of input"
  | .tooLong => "trailing input"

/-! ## The calendar -/

def isLeapYear (y : Int) : Bool := y % 4 == 0 && (y % 100 != 0 || y % 400 == 0)

def daysInMonth (y : Int) : Nat → Nat
  | 2 => if isLeapYear y then 29 else 28
  | 4 | 6 | 9 | 11 => 30
  | _ => 31

/-- Days from the beginning of 1970 to a date. The year is counted from March, so that a leap day
is the last of its year. -/
def daysFromDate (y : Int) (m d : Nat) : Int :=
  let y := if m ≤ 2 then y - 1 else y
  let era := y / 400
  let yearOfEra := y % 400
  let month : Int := if m > 2 then m - 3 else m + 9
  let dayOfYear := (153 * month + 2) / 5 + d - 1
  let dayOfEra := yearOfEra * 365 + yearOfEra / 4 - yearOfEra / 100 + dayOfYear
  era * 146097 + dayOfEra - 719468

/-- The date of a day: year, month and day of the month. -/
def dateFromDays (days : Int) : Int × Nat × Nat :=
  -- days are counted from the first of March of the year 0, in eras of 400 years
  let z := days + 719468
  let era := z / 146097
  let dayOfEra := z % 146097
  let yearOfEra := (dayOfEra - dayOfEra / 1460 + dayOfEra / 36524 - dayOfEra / 146096) / 365
  let dayOfYear := dayOfEra - (365 * yearOfEra + yearOfEra / 4 - yearOfEra / 100)
  let month := (5 * dayOfYear + 2) / 153
  let d := dayOfYear - (153 * month + 2) / 5 + 1
  let m := if month < 10 then month + 3 else month - 9
  let y := yearOfEra + era * 400
  (if m ≤ 2 then y + 1 else y, m.toNat, d.toNat)

/-! ## Reading -/

abbrev Bytes := List UInt8

def digit (b : UInt8) : Except Fault Nat :=
  if 48 ≤ b.toNat ∧ b.toNat ≤ 57 then .ok (b.toNat - 48) else .error .invalid

/-- A number of exactly `n` digits. -/
def digits : Nat → Nat → Bytes → Except Fault (Nat × Bytes)
  | 0, v, s => .ok (v, s)
  | _ + 1, _, [] => .error .tooShort
  | n + 1, v, b :: s => do digits n (v * 10 + (← digit b)) s

/-- One character out of a choice. -/
def oneOf (choice : List Char) : Bytes → Except Fault Bytes
  | [] => .error .tooShort
  | b :: s => if choice.any fun c => c.toNat == b.toNat then .ok s else .error .invalid

/-- Digits of a fraction as nanoseconds; `left` places count, digits behind them do not. -/
def fraction : Nat → Nat → Bytes → Nat × Bytes
  | left, v, [] => (v * Nat.pow 10 left, [])
  | left, v, b :: s =>
    match digit b with
    | .ok d =>
      match left with
      | 0 => fraction 0 v s
      | left + 1 => fraction left (v * 10 + d) s
    | .error _ => (v * Nat.pow 10 left, b :: s)

/-- The nanoseconds behind a point; at least one digit stands there. -/
def readFraction : Bytes → Except Fault (Nat × Bytes)
  | [] => .error .tooShort
  | b :: s => do
    let _ ← digit b
    return fraction 9 0 (b :: s)

/-- Two digits, both of which must be there before either is judged. -/
def pair : Bytes → Except Fault (Nat × Nat × Bytes)
  | a :: b :: s => do return ((← digit a), (← digit b), s)
  | _ => .error .tooShort

/-- The minutes of an offset. -/
def readMinutes (s : Bytes) : Except Fault (Nat × Bytes) := do
  let (a, b, s) ← pair s
  if a ≤ 5 then return (a * 10 + b, s) else throw .outOfRange

/-- The offset from UTC in seconds: `Z`, or hours and minutes behind a sign. -/
def readOffset : Bytes → Except Fault (Int × Bytes)
  | [] => .error .tooShort
  | b :: s =>
    let signed (sign : Int) (s : Bytes) : Except Fault (Int × Bytes) := do
      let (a, b, s) ← pair s
      let s ← oneOf [':'] s
      let (minutes, s) ← readMinutes s
      return (sign * ((a * 10 + b) * 3600 + minutes * 60 : Nat), s)
    if b = 0x5A ∨ b = 0x7A then .ok (0, s)
    else if b = 0x2B then signed 1 s
    else if b = 0x2D then signed (-1) s
    else match b, s with
      | 0xE2, 0x88 :: 0x92 :: r => signed (-1) r
      | _, _ => .error .invalid

/-- The shortest timestamp has as many bytes up to its seconds. -/
def secondsEnd : Nat := 19

/-- The instant a timestamp names. -/
def readBytes (s : Bytes) : Except Fault Instant := do
  if s.length < secondsEnd then throw .tooShort
  let (year, s) ← digits 4 0 s
  let s ← oneOf ['-'] s
  let (month, s) ← digits 2 0 s
  let s ← oneOf ['-'] s
  let (day, s) ← digits 2 0 s
  if month = 0 ∨ month > 12 ∨ day = 0 ∨ day > daysInMonth year month then throw .outOfRange
  let s ← oneOf ['T', 't', ' '] s
  let (hour, s) ← digits 2 0 s
  let s ← oneOf [':'] s
  let (minute, s) ← digits 2 0 s
  let s ← oneOf [':'] s
  let (second, s) ← digits 2 0 s
  let (nanos, s) ← match s with
    | 0x2E :: r => readFraction r
    | _ => pure (0, s)
  if hour > 23 ∨ minute > 59 ∨ second > 60 then throw .outOfRange
  -- a leap second is kept as a second and more of nanoseconds
  let (second, nanos) := if second = 60 then (59, nanos + 1000000000) else (second, nanos)
  let (offset, s) ← readOffset s
  if ¬ s.isEmpty then throw .tooLong
  -- an offset of a day or more is judged last, after what trails
  if offset.natAbs > 86340 then throw .outOfRange
  return ⟨daysFromDate year month day * 86400 + (hour * 3600 + minute * 60 + second : Nat) - offset, nanos⟩

def read (s : String) : Except Fault Instant := readBytes s.toUTF8.toList

/-! ## Writing -/

def monthName : Nat → String
  | 1 => "Jan"
  | 2 => "Feb"
  | 3 => "Mar"
  | 4 => "Apr"
  | 5 => "May"
  | 6 => "Jun"
  | 7 => "Jul"
  | 8 => "Aug"
  | 9 => "Sep"
  | 10 => "Oct"
  | 11 => "Nov"
  | _ => "Dec"

/-- A number with zeros in front up to `width` digits. -/
def padded (width n : Nat) : String :=
  let ds := Nat.toDigits 10 n
  String.ofList (List.replicate (width - ds.length) '0' ++ ds)

/-- A year of four digits; outside of those it has a sign. -/
def yearText (y : Int) : String :=
  if y < 0 then "-" ++ padded 4 y.natAbs
  else if y > 9999 then "+" ++ padded 4 y.natAbs
  else padded 4 y.natAbs

/-- The date and the time of day, a leap second being the sixty-first. -/
def parts (t : Instant) : (Int × Nat × Nat) × (Nat × Nat × Nat) :=
  let ofDay := (t.seconds % 86400).toNat
  let leap := if t.nanos ≥ 1000000000 then 1 else 0
  (dateFromDays (t.seconds / 86400), (ofDay / 3600, ofDay / 60 % 60, ofDay % 60 + leap))

def clock (h m s : Nat) : String := padded 2 h ++ ":" ++ padded 2 m ++ ":" ++ padded 2 s

/-- The form shown in tables, to the second. -/
def display (t : Instant) : String :=
  let ((y, mo, d), (h, m, s)) := t.parts
  padded 2 d ++ " " ++ monthName mo ++ " " ++ yearText y ++ " " ++ clock h m s ++ " UTC"

/-- Nanoseconds in as many groups of three digits as they need. -/
def fractionText (nanos : Nat) : String :=
  if nanos = 0 then ""
  else if nanos % 1000000 = 0 then "." ++ padded 3 (nanos / 1000000)
  else if nanos % 1000 = 0 then "." ++ padded 6 (nanos / 1000)
  else "." ++ padded 9 nanos

/-- The RFC 3339 form in UTC. -/
def render (t : Instant) : String :=
  let ((y, mo, d), (h, m, s)) := t.parts
  yearText y ++ "-" ++ padded 2 mo ++ "-" ++ padded 2 d ++ "T" ++ clock h m s ++
    fractionText (t.nanos % 1000000000) ++ "Z"

/-- By time; nanoseconds decide within a second. -/
def order : Instant → Instant → Ordering := compareLex (compareOn seconds) (compareOn nanos)

/-- Not after. -/
def le (a b : Instant) : Bool := order a b != .gt

end Instant

end MultiCluster
