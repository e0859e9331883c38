/-
Percent encoding: a character that may not stand for itself is written as the bytes of its UTF-8
form, each a percent sign and two hexadecimal digits. What may stand for itself depends on the part
of a URL.
-/
namespace MultiCluster.Url

/-- A digit in upper case. -/
def hexDigit (n : Nat) : Char := if n < 10 then Char.ofNat (48 + n) else Char.ofNat (55 + n)

def percentByte (b : UInt8) : List Char := ['%', hexDigit (b.toNat / 16), hexDigit (b.toNat % 16)]

def percentChar (c : Char) : List Char := (String.utf8EncodeChar c).flatMap percentByte

/-- The text with everything encoded that is not kept. -/
def percentText (keep : Char → Bool) (s : List Char) : List Char :=
  s.flatMap fun c => if keep c then [c] else percentChar c

theorem percentText_append (keep : Char → Bool) (s t : List Char) :
    percentText keep (s ++ t) = percentText keep s ++ percentText keep t := List.flatMap_append

/-! ## What each part keeps -/

/-- Neither a control character nor beyond ASCII. -/
def isPrintable (c : Char) : Bool := 0x20 ≤ c.toNat && c.toNat < 0x7F

def keptInFragment (c : Char) : Bool :=
  isPrintable c && !(c == ' ' || c == '"' || c == '<' || c == '>' || c == '\x60')

def keptInPath (c : Char) : Bool :=
  keptInFragment c && !(c == '#' || c == '?' || c == '\x7b' || c == '\x7d')

def keptInUser (c : Char) : Bool :=
  keptInPath c && !(c == '/' || c == ':' || c == ';' || c == '=' || c == '@' || c == '[' || c == '\\' ||
    c == ']' || c == '^' || c == '|')

/-- The single quote is kept only where the scheme is not a special one. -/
def keptInQuery (special : Bool) (c : Char) : Bool :=
  isPrintable c && !(c == ' ' || c == '"' || c == '#' || c == '<' || c == '>' || (special && c == '\''))

def isAlnum (c : Char) : Bool :=
  ('a' ≤ c && c ≤ 'z') || ('A' ≤ c && c ≤ 'Z') || ('0' ≤ c && c ≤ '9')

/-- What a form field keeps, besides the blank, which becomes a plus sign. -/
def keptInForm (c : Char) : Bool := isAlnum c || c == '*' || c == '-' || c == '.' || c == '_'

/-- A name or a value of a form. -/
def formText (s : List Char) : List Char :=
  s.flatMap fun c => if c = ' ' then ['+'] else if keptInForm c then [c] else percentChar c

/-- Pairs as a query. -/
def formPairs : List (String × String) → List Char
  | [] => []
  | [(k, v)] => formText k.toList ++ '=' :: formText v.toList
  | (k, v) :: p :: r => formText k.toList ++ '=' :: formText v.toList ++ '&' :: formPairs (p :: r)

/-! ## Decoding -/

def hexValue? (b : UInt8) : Option Nat :=
  let n := b.toNat
  if 48 ≤ n ∧ n ≤ 57 then some (n - 48)
  else if 65 ≤ n ∧ n ≤ 70 then some (n - 55)
  else if 97 ≤ n ∧ n ≤ 102 then some (n - 87)
  else none

/-- The bytes that an encoded text stands for; a percent sign without two digits is itself. -/
def percentDecode : List UInt8 → List UInt8
  | 0x25 :: a :: b :: r =>
    match hexValue? a, hexValue? b with
    | some x, some y => UInt8.ofNat (x * 16 + y) :: percentDecode r
    | _, _ => 0x25 :: percentDecode (a :: b :: r)
  | b :: r => b :: percentDecode r
  | [] => []

def bytesOf (s : List Char) : List UInt8 := s.flatMap String.utf8EncodeChar

end MultiCluster.Url
