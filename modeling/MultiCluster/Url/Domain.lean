/-
Domain names. Letters are put into lower case, and a label with characters beyond ASCII is written
in Punycode: its ASCII characters, then the others as the numbers of steps between them in the order
of their code points, in digits whose weights adapt to the numbers seen.
-/
import MultiCluster.Text.Cut
namespace MultiCluster.Url

/-! ## Punycode -/

namespace Punycode

/-- A digit of base 36: the letters, then the numerals. -/
def digit (d : Nat) : Char := if d < 26 then Char.ofNat (97 + d) else Char.ofNat (22 + d)

/-- The threshold below which the digit at position `k` is the last. -/
def threshold (k bias : Nat) : Nat := if k ≤ bias then 1 else if bias + 26 ≤ k then 26 else k - bias

/-- The digits of a number, at most `fuel` of them. -/
def digits (bias : Nat) : (fuel k q : Nat) → List Char
  | 0, _, _ => []
  | fuel + 1, k, q =>
    let t := threshold k bias
    if q < t then [digit q]
    else digit (t + (q - t) % (36 - t)) :: digits bias fuel (k + 36) ((q - t) / (36 - t))

def settle : (fuel k delta : Nat) → Nat
  | 0, k, _ => k
  | fuel + 1, k, delta => if 455 < delta then settle fuel (k + 36) (delta / 35) else k + 36 * delta / (delta + 38)

/-- The bias after a number, of which `count` have been written with it. -/
def adapt (delta count : Nat) (first : Bool) : Nat :=
  let d := if first then delta / 700 else delta / 2
  settle 64 0 (d + d / count)

/-- How far the writing has come. -/
structure Progress where
  delta : Nat
  bias : Nat
  handled : Nat
  written : List Char := []

/-- Passes one character of the label on the way to the code point `m`. -/
def pass (basic m : Nat) (p : Progress) (c : Char) : Progress :=
  if c.toNat < m then { p with delta := p.delta + 1 }
  else if c.toNat = m then
    { delta := 0
      bias := adapt p.delta (p.handled + 1) (p.handled == basic)
      handled := p.handled + 1
      written := p.written ++ digits p.bias 64 36 p.delta }
  else p

/-- Goes through the code points that occur, from the smallest. -/
def walk (label : List Char) (basic : Nat) : List Nat → Nat → Progress → List Char
  | [], _, p => p.written
  | m :: r, n, p =>
    -- each place of each code point passed over counts one
    let p := label.foldl (pass basic m) { p with delta := p.delta + (m - n) * (p.handled + 1) }
    walk label basic r (m + 1) { p with delta := p.delta + 1 }

def insertPoint (n : Nat) : List Nat → List Nat
  | [] => [n]
  | m :: r => if n < m then n :: m :: r else if n = m then m :: r else m :: insertPoint n r

def encode (label : List Char) : List Char :=
  let basic := label.filter fun c => c.toNat < 0x80
  let points := (label.filter fun c => 0x80 ≤ c.toNat).foldr (fun c l => insertPoint c.toNat l) []
  (if basic.isEmpty then [] else basic ++ ['-']) ++
    walk label basic.length points 128 ⟨0, 72, basic.length, []⟩

end Punycode

/-! ## Domains -/

/-- The lower case of the letters of ASCII, Latin-1, Greek and Cyrillic. -/
def lowerChar (c : Char) : Char :=
  let n := c.toNat
  if (0x41 ≤ n && n ≤ 0x5A) || (0xC0 ≤ n && n ≤ 0xDE && n != 0xD7) || (0x391 ≤ n && n ≤ 0x3A9 && n != 0x3A2) ||
      (0x410 ≤ n && n ≤ 0x42F) then Char.ofNat (n + 32)
  else if 0x400 ≤ n && n ≤ 0x40F then Char.ofNat (n + 80)
  else c

/-- A character that no domain name has. -/
def isForbidden (c : Char) : Bool :=
  c.toNat ≤ 0x20 || c.toNat == 0x7F || "%#/:<>?@[\\]^|".toList.contains c

/-- A label as it is sent. -/
def asciiLabel (label : List Char) : List Char :=
  if label.all fun c => c.toNat < 0x80 then label else "xn--".toList ++ Punycode.encode label

/-- The name as it is sent, unless it is empty or has a forbidden character. -/
def domain? (s : List Char) : Option (List Char) :=
  let name := Text.join ['.'] ((Text.split '.' (s.map lowerChar)).map asciiLabel)
  if name.isEmpty || name.any isForbidden then none else some name

end MultiCluster.Url
