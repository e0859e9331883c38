/-
Hosts of URLs: domain names and the two kinds of addresses. A name that ends in a number is an
address of version 4, given as one to four numbers of which the last fills the bytes that are left;
an address of version 6 stands in brackets.
-/
import MultiCluster.Text.Utf8
import MultiCluster.Url.Domain
import MultiCluster.Url.Percent
namespace MultiCluster

inductive Host where
  | domain (name : List Char)
  | v4 (address : Nat)
  | v6 (pieces : List Nat)
  deriving DecidableEq

namespace Host

open Url (hexValue?)

/-! ## Version 4 -/

def digitValue? (radix : Nat) (c : Char) : Option Nat := do
  let v ← if c.toNat < 0x80 then hexValue? (UInt8.ofNat c.toNat) else none
  if v < radix then some v else none

/-- The value of digits; there may be none. -/
def number? (radix : Nat) (s : List Char) : Option Nat :=
  s.foldl (fun v c => do return (← v) * radix + (← digitValue? radix c)) (some 0)

/-- A number with its radix told by how it begins. -/
def part? : List Char → Option Nat
  | [] => none
  | '0' :: 'x' :: r => number? 16 r
  | '0' :: 'X' :: r => number? 16 r
  | '0' :: c :: r => number? 8 (c :: r)
  | s => number? 10 s

/-- The pieces of a name, without an empty last one. -/
def parts (name : List Char) : List (List Char) :=
  match (Text.split '.' name).reverse with
  | [] :: (p :: r) => (p :: r).reverse
  | r => r.reverse

/-- Whether the name is meant as an address. -/
def endsInNumber (name : List Char) : Bool :=
  match (parts name).getLast? with
  | some p => !p.isEmpty && (p.all (fun c => '0' ≤ c && c ≤ '9') || (part? p).isSome)
  | none => false

/-- The address that numbers make: each but the last is a byte, from the highest. -/
def assemble : (room : Nat) → List Nat → Option Nat
  | 0, _ => none
  | _ + 1, [] => none
  | room + 1, [n] => if n < Nat.pow 256 (room + 1) then some n else none
  | room + 1, n :: m :: r => do
    let low ← assemble room (m :: r)
    if n < 256 then some (n * Nat.pow 256 room + low) else none

def v4? (name : List Char) : Option Nat := do assemble 4 (← (parts name).mapM part?)

def v4Text (n : Nat) : List Char :=
  Text.join ['.'] ([n / 16777216 % 256, n / 65536 % 256, n / 256 % 256, n % 256].map (Nat.toDigits 10))

/-! ## Version 6 -/

/-- A piece of one to four digits. -/
def piece? (s : List Char) : Option Nat := if s.length = 0 ∨ 4 < s.length then none else number? 16 s

/-- A byte in decimal, without leading zeros. -/
def byte? (s : List Char) : Option Nat :=
  match s with
  | [] => none
  | ['0'] => some 0
  | '0' :: _ => none
  | s => do
    let n ← number? 10 s
    if n < 256 then some n else none

/-- The last piece, which may be two pieces written as an address of version 4. -/
def lastPieces? (s : List Char) : Option (List Nat) :=
  match Text.split '.' s with
  | [p] => do return [← piece? p]
  | [a, b, c, d] => do return [(← byte? a) * 256 + (← byte? b), (← byte? c) * 256 + (← byte? d)]
  | _ => none

/-- The pieces between colons. -/
def pieces? (dotted : Bool) : List (List Char) → Option (List Nat)
  | [] => some []
  | [p] => if dotted then lastPieces? p else do return [← piece? p]
  | p :: q :: r => do return (← piece? p) :: (← pieces? dotted (q :: r))

def side? (dotted : Bool) (s : List Char) : Option (List Nat) :=
  if s.isEmpty then some [] else pieces? dotted (Text.split ':' s)

/-- The parts before and after the first two colons in a row. -/
def cutDouble? : List Char → Option (List Char × List Char)
  | ':' :: ':' :: r => some ([], r)
  | c :: r => (cutDouble? r).map fun p => (c :: p.1, p.2)
  | [] => none

/-- The eight pieces; two colons in a row stand for at least one piece of zero. -/
def v6? (s : List Char) : Option (List Nat) :=
  match cutDouble? s with
  | none => do
    let ps ← side? true s
    if ps.length = 8 then some ps else none
  | some (a, b) => do
    let ps ← side? false a
    let qs ← side? true b
    -- the two colons stand for one piece at least
    if ps.length + qs.length ≤ 7 then some (ps ++ List.replicate (8 - ps.length - qs.length) 0 ++ qs) else none

/-- The length of the run of zeros in front. -/
def zeros : List Nat → Nat
  | 0 :: r => zeros r + 1
  | _ => 0

/-- The place and the length of the first of the longest runs of zeros. -/
def longestZeros (at' : Nat) : List Nat → Nat × Nat
  | [] => (at', 0)
  | n :: r =>
    let (i, len) := longestZeros (at' + 1) r
    if len ≤ zeros (n :: r) then (at', zeros (n :: r)) else (i, len)

def hexPieces (ps : List Nat) : List Char := Text.join [':'] (ps.map (Nat.toDigits 16))

def v6Text (ps : List Nat) : List Char :=
  let (i, len) := longestZeros 0 ps
  if len < 2 then hexPieces ps else hexPieces (ps.take i) ++ [':', ':'] ++ hexPieces (ps.drop (i + len))

/-! ## Hosts -/

def bracketed? : List Char → Option (List Char)
  | '[' :: r => Text.dropSuffix? [']'] r
  | _ => none

/-- The host of a URL whose scheme is special. -/
def parse? (s : List Char) : Option Host :=
  if s.head? = some '[' then do return .v6 (← v6? (← bracketed? s))
  else do
    let text ← Text.decode? (Url.percentDecode (Url.bytesOf s))
    let name ← Url.domain? text.toList
    -- a name that ends in a number is an address or nothing
    if endsInNumber name then return .v4 (← v4? name) else return .domain name

/-- The host of a URL of another scheme, which is taken as it is; it may be empty. -/
def parseOpaque? (s : List Char) : Option Host :=
  if s.head? = some '[' then do return .v6 (← v6? (← bracketed? s))
  else if s.any fun c => c.toNat = 0 || " #/:<>?@[\\]^|".toList.contains c then none
  else some (.domain (Url.percentText Url.isPrintable s))

def text : Host → List Char
  | .domain name => name
  | .v4 n => v4Text n
  | .v6 ps => '[' :: v6Text ps ++ [']']

end Host

end MultiCluster
