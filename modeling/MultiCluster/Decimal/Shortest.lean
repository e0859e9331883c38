/-
The shortest decimal that reads back as a given double. On the grid of one, two, … seventeen digits
the two neighbours of the value are tried; the first grid with a neighbour inside the rounding
interval wins, of two such neighbours the nearer, of two equally near the even one.
-/
import MultiCluster.Decimal.Binary64
namespace MultiCluster.Decimal

/-- `digits · 10^exponent`. -/
structure Digits where
  digits : Nat
  exponent : Int
  deriving DecidableEq, Repr

/-- The rounding interval of `m · 2^q`, over the common denominator `den`, in quarters of a unit. -/
structure Interval where
  low : Nat
  value : Nat
  high : Nat
  den : Nat
  closed : Bool

def Interval.of (m : Nat) (q : Int) : Interval :=
  let (n, d) := Binary64.scale 1 1 (q - 2)
  -- below a power of two the doubles lie twice as dense
  let below := if m = Nat.pow 2 52 ∧ q > Binary64.minExponent then 1 else 2
  { low := (4 * m - below) * n, value := 4 * m * n, high := (4 * m + 2) * n, den := d, closed := m % 2 == 0 }

/-- Whether `c · 10^k` lies in the interval. -/
def Interval.holds (i : Interval) (c : Nat) (k : Int) : Bool :=
  let (x, s) := if k ≥ 0 then (c * Nat.pow 10 k.toNat * i.den, 1) else (c * i.den, Nat.pow 10 (-k).toNat)
  if i.closed then i.low * s ≤ x && x ≤ i.high * s else i.low * s < x && x < i.high * s

/-- The decimal exponent `e` with `10^(e-1) ≤ value < 10^e`, searched downwards. -/
def decimalSize (num den : Nat) : Nat → Int → Int
  | 0, e => e
  | fuel + 1, e =>
    let k := e - 1
    let fits := if k ≥ 0 then num ≥ den * Nat.pow 10 k.toNat else num * Nat.pow 10 (-k).toNat ≥ den
    if fits then e else decimalSize num den fuel k

/-- The neighbour of the value on the grid of `n` digits that reads back, if any does. -/
def onGrid (i : Interval) (size : Int) (n : Nat) : Option Digits :=
  let k := size - n
  let (num, den) := if k ≥ 0 then (i.value, i.den * Nat.pow 10 k.toNat) else (i.value * Nat.pow 10 (-k).toNat, i.den)
  let c := num / den
  let r := num % den
  match i.holds c k, i.holds (c + 1) k with
  | true, false => some ⟨c, k⟩
  | false, true => some ⟨c + 1, k⟩
  | true, true =>
    some (if 2 * r < den then ⟨c, k⟩ else if 2 * r > den then ⟨c + 1, k⟩ else if c % 2 = 0 then ⟨c, k⟩ else ⟨c + 1, k⟩)
  | false, false => none

/-- The shortest decimal of `m · 2^q`, for a positive `m`. -/
def shortest (m : Nat) (q : Int) : Digits :=
  let i := Interval.of m q
  let size := decimalSize i.value i.den 700 310
  ((List.range 17).findSome? fun n => onGrid i size (n + 1)).getD ⟨m, 0⟩

/-- Drops the trailing zeros of the digits. -/
def Digits.strip : Nat → Digits → Digits
  | 0, d => d
  | fuel + 1, d => if d.digits ≠ 0 ∧ d.digits % 10 = 0 then strip fuel ⟨d.digits / 10, d.exponent + 1⟩ else d

/-- Positional notation while the point falls among the first sixteen places or at most five places
before the first digit, `de±n` otherwise; a number without a fraction ends in `.0`. -/
def Digits.text (d : Digits) : String :=
  let ds := String.ofList (Nat.toDigits 10 d.digits)
  let zeros (n : Nat) := String.ofList (List.replicate n '0')
  let point := (ds.length : Int) + d.exponent
  if 0 ≤ d.exponent ∧ point ≤ 16 then ds ++ zeros d.exponent.toNat ++ ".0"
  else if 0 < point ∧ point ≤ 16 then
    let n := point.toNat
    String.ofList (ds.toList.take n) ++ "." ++ String.ofList (ds.toList.drop n)
  else if -5 < point ∧ point ≤ 0 then "0." ++ zeros (-point).toNat ++ ds
  else
    let e := toString (point - 1)
    match ds.toList with
    | [c] => String.ofList [c] ++ "e" ++ e
    | c :: r => String.ofList [c] ++ "." ++ String.ofList r ++ "e" ++ e
    | [] => ""

/-- The text of a finite double. -/
def finiteText (negative : Bool) (m : Nat) (q : Int) : String :=
  let sign := if negative then "-" else ""
  if m = 0 then sign ++ "0.0" else sign ++ ((shortest m q).strip 20).text

end MultiCluster.Decimal
