/-
Double-precision numbers as exact values: a finite one is `m · 2^q` with at most 53 bits in `m`.
Reading rounds to the nearest, ties to the even mantissa; products and quotients are rounded the
same way, from the exact rational value.
-/
namespace MultiCluster.Decimal

/-- A double-precision number. A finite one is kept with the exponent its encoding gives it. -/
inductive Binary64 where
  | nan
  | infinite (negative : Bool)
  | finite (negative : Bool) (mantissa : Nat) (exponent : Int)
  deriving DecidableEq, Repr

namespace Binary64

/-- The least exponent; numbers below `2^52 · 2^minExponent` have fewer bits. -/
def minExponent : Int := -1074

/-- The largest exponent. -/
def maxExponent : Int := 971

def zero (negative : Bool) : Binary64 := .finite negative 0 minExponent

/-- `a · 2^e` as a fraction of naturals. -/
def scale (num den : Nat) (e : Int) : Nat × Nat :=
  if e ≥ 0 then (num * Nat.pow 2 e.toNat, den) else (num, den * Nat.pow 2 (-e).toNat)

/-- The nearest natural to `num / den`, a tie going to the even one. -/
def roundEven (num den : Nat) : Nat :=
  let q := num / den
  let r := num % den
  if 2 * r < den then q else if 2 * r > den then q + 1 else if q % 2 = 0 then q else q + 1

/-- The double nearest to `num / den`, for a positive `den`. -/
def ofRatio (negative : Bool) (num den : Nat) : Binary64 :=
  if num = 0 then zero negative
  else
    let e : Int := (Nat.log2 num : Int) - Nat.log2 den
    let (n, d) := scale num den (-e)
    -- 53 binary digits in front of the point, fewer for a subnormal number
    let q := max minExponent (if n ≥ d then e - 52 else e - 53)
    let (n, d) := scale num den (-q)
    let m := roundEven n d
    -- rounding up may have carried into another digit
    let (m, q) := if m = Nat.pow 2 53 then (Nat.pow 2 52, q + 1) else (m, q)
    if q > maxExponent then .infinite negative else .finite negative m q

/-- The double nearest to `digits · 10^e`. Exponents that leave the range of doubles in any case are
not computed with. -/
def ofDecimal (negative : Bool) (digits : Nat) (e : Int) : Binary64 :=
  if digits = 0 then zero negative
  else
    let size : Int := (Nat.toDigits 10 digits).length
    if size + e > 400 then .infinite negative
    else if size + e < -400 then zero negative
    else if e ≥ 0 then ofRatio negative (digits * Nat.pow 10 e.toNat) 1
    else ofRatio negative digits (Nat.pow 10 (-e).toNat)

def isFinite : Binary64 → Bool
  | .finite .. => true
  | _ => false

/-- Equality of values: all NaN are alike, and so are the two zeros. -/
def same : Binary64 → Binary64 → Bool
  | .nan, .nan => true
  | .infinite a, .infinite b => a == b
  | .finite a m q, .finite b n p => (m == 0 && n == 0) || (a == b && m == n && q == p)
  | _, _ => false

/-- The absolute value of a finite double as a fraction. -/
def ratio (m : Nat) (q : Int) : Nat × Nat := scale m 1 q

def mul : Binary64 → Binary64 → Binary64
  | .finite a m q, .finite b n p =>
    let (x, y) := ratio m q
    let (z, w) := ratio n p
    ofRatio (a != b) (x * z) (y * w)
  | .infinite a, .finite b _ _ => .infinite (a != b)
  | .finite a _ _, .infinite b => .infinite (a != b)
  | .infinite a, .infinite b => .infinite (a != b)
  | _, _ => .nan

/-- The quotient by a number other than zero. -/
def div : Binary64 → Binary64 → Binary64
  | .finite a m q, .finite b n p =>
    let (x, y) := ratio m q
    let (z, w) := ratio n p
    if z = 0 then .nan else ofRatio (a != b) (x * w) (y * z)
  | .infinite a, .finite b _ _ => .infinite (a != b)
  | .finite a _ _, .infinite b => zero (a != b)
  | _, _ => .nan

end Binary64

end MultiCluster.Decimal
