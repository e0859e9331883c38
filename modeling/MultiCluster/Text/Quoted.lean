/-
Quoted texts and characters for messages: quotes, backslashes and characters that are not shown as
themselves are escaped, the last by their code point.
-/
import MultiCluster.Text.Plain
namespace MultiCluster.Text

def hexText (n : Nat) : List Char := Nat.toDigits 16 n

/-- A character between quotes of the kind `quote`. -/
def escaped (quote c : Char) : List Char :=
  if c = '\x00' then ['\\', '0']
  else if c = '\t' then ['\\', 't']
  else if c = '\n' then ['\\', 'n']
  else if c = '\r' then ['\\', 'r']
  else if c = '\\' then ['\\', '\\']
  else if c = quote then ['\\', c]
  else if isPlain c then [c]
  else ['\\', 'u', '\x7b'] ++ hexText c.toNat ++ ['\x7d']

def quotedText (s : String) : String := String.ofList ('"' :: s.toList.flatMap (escaped '"') ++ ['"'])

def quotedChar (c : Char) : String := String.ofList ('\'' :: escaped '\'' c ++ ['\''])

end MultiCluster.Text
