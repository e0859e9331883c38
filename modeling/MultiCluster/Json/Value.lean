/-
JSON values and their two written forms: compact, and pretty with two spaces per level. The members
of an object are kept in ascending order of their names, each name once; `Json.ofMembers` brings any
list of members into that form, the last of equal names standing.
-/
import MultiCluster.Dict
import MultiCluster.Decimal.Shortest
namespace MultiCluster

/-- A JSON number: an integer, or a double that was written with a fraction, an exponent or too
many digits for 64 bits. -/
inductive JsonNumber where
  | int (n : Int)
  | real (negative : Bool) (mantissa : Nat) (exponent : Int)
  deriving DecidableEq, Repr

inductive Json where
  | null
  | bool (b : Bool)
  | number (n : JsonNumber)
  | text (s : String)
  | array (items : List Json)
  | object (members : List (String × Json))

namespace Json

instance : Inhabited Json := ⟨.null⟩

def ofMembers (l : List (String × Json)) : Json := .object (Dict.ofList l).toList

def ofTexts (d : Dict String) : Json := .object (d.map Json.text).toList

/-- The member of that name, if the value is an object that has one. -/
def member? (name : String) : Json → Option Json
  | .object ms => Dict.find name ms
  | _ => none

def text? : Json → Option String
  | .text s => some s
  | _ => none

def hexDigit (n : Nat) : Char := if n < 10 then Char.ofNat (48 + n) else Char.ofNat (87 + n)

/-- A character inside a quoted text: quotes, backslashes and controls are escaped. -/
def escapeChar (c : Char) : List Char :=
  if c = '"' then ['\\', '"']
  else if c = '\\' then ['\\', '\\']
  else if c = '\n' then ['\\', 'n']
  else if c = '\t' then ['\\', 't']
  else if c = '\r' then ['\\', 'r']
  else if c = '\x08' then ['\\', 'b']
  else if c = '\x0c' then ['\\', 'f']
  else if c.toNat < 0x20 then ['\\', 'u', '0', '0', hexDigit (c.toNat / 16), hexDigit (c.toNat % 16)]
  else [c]

def quoted (s : String) : String := String.ofList ('"' :: s.toList.flatMap escapeChar ++ ['"'])

end Json

def JsonNumber.render : JsonNumber → String
  | .int n => toString n
  | .real s m q => Decimal.finiteText s m q

namespace Json

/-- Strings with `sep` between them. -/
def between (sep : String) : List String → String
  | [] => ""
  | [x] => x
  | x :: y :: r => x ++ sep ++ between sep (y :: r)

mutual
/-- The form without any blanks. -/
def compact : Json → String
  | .null => "null"
  | .bool b => if b then "true" else "false"
  | .number n => n.render
  | .text s => quoted s
  | .array items => "[" ++ between "," (compactItems items) ++ "]"
  | .object ms => "\x7b" ++ between "," (compactMembers ms) ++ "\x7d"

def compactItems : List Json → List String
  | [] => []
  | x :: r => compact x :: compactItems r

def compactMembers : List (String × Json) → List String
  | [] => []
  | (k, x) :: r => (quoted k ++ ":" ++ compact x) :: compactMembers r
end

def indentation (level : Nat) : String := String.ofList (List.replicate (2 * level) ' ')

/-- One element a line, between brackets; nothing between the brackets of an empty list. -/
def block (level : Nat) (opening closing : String) : List String → String
  | [] => opening ++ closing
  | x :: r =>
    opening ++ "\n" ++ indentation (level + 1) ++ between (",\n" ++ indentation (level + 1)) (x :: r) ++
      "\n" ++ indentation level ++ closing

mutual
/-- The form with one element a line, indented by two spaces a level. -/
def prettyAt (level : Nat) : Json → String
  | .null => "null"
  | .bool b => if b then "true" else "false"
  | .number n => n.render
  | .text s => quoted s
  | .array items => block level "[" "]" (prettyItems (level + 1) items)
  | .object ms => block level "\x7b" "\x7d" (prettyMembers (level + 1) ms)

def prettyItems (level : Nat) : List Json → List String
  | [] => []
  | x :: r => prettyAt level x :: prettyItems level r

def prettyMembers (level : Nat) : List (String × Json) → List String
  | [] => []
  | (k, x) :: r => (quoted k ++ ": " ++ prettyAt level x) :: prettyMembers level r
end

def pretty (j : Json) : String := prettyAt 0 j

mutual
/-- Equality of values. -/
def beq : Json → Json → Bool
  | .null, .null => true
  | .bool a, .bool b => a == b
  | .number a, .number b => a == b
  | .text a, .text b => a == b
  | .array a, .array b => beqItems a b
  | .object a, .object b => beqMembers a b
  | _, _ => false

def beqItems : List Json → List Json → Bool
  | [], [] => true
  | x :: r, y :: s => beq x y && beqItems r s
  | _, _ => false

def beqMembers : List (String × Json) → List (String × Json) → Bool
  | [], [] => true
  | (k, x) :: r, (l, y) :: s => k == l && beq x y && beqMembers r s
  | _, _ => false
end

instance : BEq Json := ⟨beq⟩

end Json

end MultiCluster
