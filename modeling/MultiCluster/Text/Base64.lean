/-
Base 64: three bytes as four characters of six bits each, an incomplete group filled up with equals
signs.
-/
namespace MultiCluster.Text

def base64Digit (n : Nat) : Char :=
  if n < 26 then Char.ofNat (65 + n)
  else if n < 52 then Char.ofNat (71 + n)
  else if n < 62 then Char.ofNat (n - 4)
  else if n = 62 then '+'
  else '/'

/-- The characters of a group of 24 bits. -/
def base64Group (n : Nat) : List Char := [n / 262144, n / 4096 % 64, n / 64 % 64, n % 64].map base64Digit

def base64 : List UInt8 → List Char
  | [] => []
  | [a] => (base64Group (a.toNat * 65536)).take 2 ++ ['=', '=']
  | [a, b] => (base64Group (a.toNat * 65536 + b.toNat * 256)).take 3 ++ ['=']
  | a :: b :: c :: r => base64Group (a.toNat * 65536 + b.toNat * 256 + c.toNat) ++ base64 r

end MultiCluster.Text
