/-
Bytes and text. `decode?` accepts exactly the well-formed UTF-8 sequences; `decodeLossy` reads any
bytes and puts U+FFFD for every maximal ill-formed part; `decodeMarked` does so after looking at a
byte-order mark, which may also announce UTF-16.
-/
namespace MultiCluster.Text

/-- A continuation byte. -/
def isTail (b : UInt8) : Bool := b.toNat / 64 == 2

/-- The tail bytes a lead byte asks for, and the range its first tail byte must lie in. -/
def leadShape (b : UInt8) : Option (Nat × Nat × Nat) :=
  let n := b.toNat
  if n < 0x80 then some (0, 0, 0)
  else if 0xC2 ≤ n ∧ n ≤ 0xDF then some (1, 0x80, 0xBF)
  else if n = 0xE0 then some (2, 0xA0, 0xBF)
  else if n = 0xED then some (2, 0x80, 0x9F)
  else if 0xE1 ≤ n ∧ n ≤ 0xEF then some (2, 0x80, 0xBF)
  else if n = 0xF0 then some (3, 0x90, 0xBF)
  else if n = 0xF4 then some (3, 0x80, 0x8F)
  else if 0xF1 ≤ n ∧ n ≤ 0xF3 then some (3, 0x80, 0xBF)
  else none

/-- The payload bits of a lead byte that asks for `k` tail bytes. -/
def leadBits (k : Nat) (b : UInt8) : Nat :=
  match k with
  | 0 => b.toNat
  | 1 => b.toNat % 32
  | 2 => b.toNat % 16
  | _ => b.toNat % 8

/-- How far the tail bytes of a sequence go: the value read so far, the tail bytes still missing
and the bytes behind. -/
def takeTails : Nat → Nat → List UInt8 → Nat × Nat × List UInt8
  | 0, v, bs => (v, 0, bs)
  | k + 1, v, [] => (v, k + 1, [])
  | k + 1, v, b :: bs => if isTail b then takeTails k (v * 64 + b.toNat % 64) bs else (v, k + 1, b :: bs)

/-- The first character of a byte sequence (`none` where it is ill-formed) and the bytes behind the
character or the maximal ill-formed part. -/
def decodeFirst (b : UInt8) (bs : List UInt8) : Option Char × List UInt8 :=
  match leadShape b with
  | none => (none, bs)
  | some (0, _, _) => (some (Char.ofNat b.toNat), bs)
  | some (k, lo, hi) =>
    match bs with
    | [] => (none, [])
    | t :: r =>
      if lo ≤ t.toNat ∧ t.toNat ≤ hi then
        match takeTails (k - 1) (leadBits k b * 64 + t.toNat % 64) r with
        | (v, 0, rest) => (some (Char.ofNat v), rest)
        | (_, _, rest) => (none, rest)
      else (none, bs)

/-- The characters of a byte sequence, `none` for each ill-formed part. The bound is the number of
bytes: each step takes one at least. -/
def decodeWith : Nat → List UInt8 → List (Option Char)
  | _, [] => []
  | 0, _ => []
  | n + 1, b :: bs => let (c, rest) := decodeFirst b bs; c :: decodeWith n rest

def decodeParts (bs : List UInt8) : List (Option Char) := decodeWith bs.length bs

/-- The text of well-formed bytes. -/
def decode? (bs : List UInt8) : Option String := ((decodeParts bs).mapM id).map String.ofList

/-- The text with U+FFFD for every ill-formed part. -/
def decodeLossy (bs : List UInt8) : String :=
  String.ofList ((decodeParts bs).map (·.getD (Char.ofNat 0xFFFD)))

/-- The 16-bit units of a byte sequence; an odd last byte is a unit of its own kind (`none`). -/
def units16 (bigEndian : Bool) : List UInt8 → List (Option Nat)
  | [] => []
  | [_] => [none]
  | a :: b :: r =>
    some (if bigEndian then a.toNat * 256 + b.toNat else b.toNat * 256 + a.toNat) :: units16 bigEndian r

/-- The text of 16-bit units; an unpaired surrogate and an odd byte read as U+FFFD. -/
def decodeUnits16 : List (Option Nat) → List Char
  | [] => []
  | none :: r => Char.ofNat 0xFFFD :: decodeUnits16 r
  | [some u] => if 0xD800 ≤ u ∧ u ≤ 0xDFFF then [Char.ofNat 0xFFFD] else [Char.ofNat u]
  | some u :: v :: r =>
    if 0xD800 ≤ u ∧ u ≤ 0xDBFF then
      match v with
      | some w =>
        if 0xDC00 ≤ w ∧ w ≤ 0xDFFF then
          Char.ofNat (0x10000 + (u - 0xD800) * 0x400 + (w - 0xDC00)) :: decodeUnits16 r
        else Char.ofNat 0xFFFD :: decodeUnits16 (v :: r)
      | none => Char.ofNat 0xFFFD :: decodeUnits16 r
    else if 0xDC00 ≤ u ∧ u ≤ 0xDFFF then Char.ofNat 0xFFFD :: decodeUnits16 (v :: r)
    else Char.ofNat u :: decodeUnits16 (v :: r)

/-- A leading byte-order mark chooses the encoding and is not part of the text; without one the
bytes are UTF-8. -/
def decodeMarked : List UInt8 → String
  | 0xEF :: 0xBB :: 0xBF :: r => decodeLossy r
  | 0xFE :: 0xFF :: r => String.ofList (decodeUnits16 (units16 true r))
  | 0xFF :: 0xFE :: r => String.ofList (decodeUnits16 (units16 false r))
  | bs => decodeLossy bs

end MultiCluster.Text
