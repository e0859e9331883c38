/-
YAML values: what a plain scalar means in the core schema, equality of values (as keys of a mapping
have to differ), and the form in which messages show a value.
-/
import MultiCluster.Decimal.Shortest
import MultiCluster.Text.Quoted
import MultiCluster.Text.Cut
namespace MultiCluster.Yaml

/-- An integer of 64 bits, signed or not, or a double. -/
inductive Number where
  | int (n : Int)
  | real (x : Decimal.Binary64)
  deriving DecidableEq, Repr

def Number.render : Number → String
  | .int n => toString n
  | .real .nan => ".nan"
  | .real (.infinite false) => ".inf"
  | .real (.infinite true) => "-.inf"
  | .real (.finite s m q) => Decimal.finiteText s m q

def Number.same : Number → Number → Bool
  | .int a, .int b => a == b
  | .real a, .real b => a.same b
  | _, _ => false

/-- A value. A tagged value carries its tag without the exclamation mark; the tags of the core schema
are used up in reading and leave none. -/
inductive Value where
  | null
  | bool (b : Bool)
  | number (n : Number)
  | text (s : String)
  | sequence (items : List Value)
  | mapping (entries : List (Value × Value))
  | tagged (tag : String) (value : Value)

namespace Value

instance : Inhabited Value := ⟨.null⟩

/-- The value under its tags. -/
def untagged : Value → Value
  | .tagged _ v => v.untagged
  | v => v

mutual
/-- Equality of values; the order of a mapping's entries does not count. -/
def same : Value → Value → Bool
  | .null, .null => true
  | .bool a, .bool b => a == b
  | .number a, .number b => a.same b
  | .text a, .text b => a == b
  | .sequence a, .sequence b => sameItems a b
  | .mapping a, .mapping b => a.length == b.length && sameEntries a b
  | .tagged t a, .tagged u b => t == u && same a b
  | _, _ => false

def sameItems : List Value → List Value → Bool
  | [], [] => true
  | x :: r, y :: s => same x y && sameItems r s
  | _, _ => false

/-- Every entry of the first list is one of the second. -/
def sameEntries : List (Value × Value) → List (Value × Value) → Bool
  | [], _ => true
  | (k, x) :: r, s => sameEntry k x s && sameEntries r s

def sameEntry (k x : Value) : List (Value × Value) → Bool
  | [] => false
  | (l, y) :: s => (same k l && same x y) || sameEntry k x s
end

mutual
/-- The form in which messages show a value. -/
def shown : Value → String
  | .null => "Null"
  | .bool b => if b then "Bool(true)" else "Bool(false)"
  | .number n => "Number(" ++ n.render ++ ")"
  | .text s => "String(" ++ Text.quotedText s ++ ")"
  | .sequence xs => "Sequence [" ++ Text.commaList ", " (shownItems xs) ++ "]"
  | .mapping es => "Mapping \x7b" ++ Text.commaList ", " (shownEntries es) ++ "\x7d"
  | .tagged t v => "TaggedValue \x7b tag: !" ++ t ++ ", value: " ++ shown v ++ " \x7d"

def shownItems : List Value → List String
  | [] => []
  | x :: r => shown x :: shownItems r

def shownEntries : List (Value × Value) → List String
  | [] => []
  | (k, x) :: r => (shownKey k ++ ": " ++ shown x) :: shownEntries r

/-- Simple keys are shown without the name of their kind. -/
def shownKey : Value → String
  | .bool b => if b then "true" else "false"
  | .number n => n.render
  | .text s => Text.quotedText s
  | .null => "Null"
  | .sequence xs => "Sequence [" ++ Text.commaList ", " (shownItems xs) ++ "]"
  | .mapping es => "Mapping \x7b" ++ Text.commaList ", " (shownEntries es) ++ "\x7d"
  | .tagged t v => "TaggedValue \x7b tag: !" ++ t ++ ", value: " ++ shown v ++ " \x7d"
end

end Value

/-! ## Plain scalars -/

/-- Whether a text is one of the spellings of null. -/
def isNull (s : String) : Bool := s == "null" || s == "Null" || s == "NULL" || s == "~"

def bool? (s : String) : Option Bool :=
  if s = "true" ∨ s = "True" ∨ s = "TRUE" then some true
  else if s = "false" ∨ s = "False" ∨ s = "FALSE" then some false
  else none

/-- The value of a digit in a base up to sixteen. -/
def digitIn (base : Nat) (c : Char) : Option Nat :=
  let d :=
    if '0' ≤ c ∧ c ≤ '9' then some (c.toNat - 48)
    else if 'a' ≤ c ∧ c ≤ 'f' then some (c.toNat - 87)
    else if 'A' ≤ c ∧ c ≤ 'F' then some (c.toNat - 55)
    else none
  d.filter (· < base)

/-- A natural number written in a base; at least one digit. -/
def natIn? (base : Nat) (cs : List Char) : Option Nat :=
  if cs.isEmpty then none
  else cs.foldlM (fun v c => (digitIn base c).map fun d => v * base + d) 0

/-- A leading zero before more digits makes a text and not a number. -/
def isPaddedDigits (cs : List Char) : Bool :=
  let cs := match cs with
    | '-' :: r => r
    | '+' :: r => r
    | _ => cs
  match cs with
  | '0' :: c :: r => (c :: r).all fun d => '0' ≤ d && d ≤ '9'
  | _ => false

/-- The integer a plain scalar writes, of any size: decimal, or with `0x`, `0o` or `0b` in front. -/
def int? (s : String) : Option Int :=
  let (negative, body) := match s.toList with
    | '-' :: r => (true, r)
    | '+' :: r => (false, r)
    | cs => (false, cs)
  let sign (n : Nat) : Int := if negative then -(n : Int) else n
  let based := match body with
    | '0' :: 'x' :: r => natIn? 16 r
    | '0' :: 'o' :: r => natIn? 8 r
    | '0' :: 'b' :: r => natIn? 2 r
    | _ => none
  match based with
  | some n => some (sign n)
  | none => if isPaddedDigits s.toList then none else (natIn? 10 body).map sign

/-- The exponent part behind `e`: an optional sign and digits to the end. -/
def exponent? : List Char → Option Int
  | '+' :: r => (natIn? 10 r).map Int.ofNat
  | '-' :: r => (natIn? 10 r).map fun n => -(n : Int)
  | r => (natIn? 10 r).map Int.ofNat

/-- A finite decimal number: digits on at least one side of the point, an exponent or none. -/
def decimal? (cs : List Char) : Option Decimal.Binary64 := do
  let (negative, cs) := match cs with
    | '-' :: r => (true, r)
    | '+' :: r => (false, r)
    | _ => (false, cs)
  let isDigit (c : Char) := '0' ≤ c && c ≤ '9'
  let whole := cs.takeWhile isDigit
  let rest := cs.dropWhile isDigit
  let (fraction, rest) := match rest with
    | '.' :: r => (r.takeWhile isDigit, r.dropWhile isDigit)
    | r => ([], r)
  if whole.isEmpty && fraction.isEmpty then none
  else
    let e ← match rest with
      | [] => some 0
      | c :: r => if c = 'e' ∨ c = 'E' then exponent? r else none
    let digits := (natIn? 10 (whole ++ fraction)).getD 0
    let x := Decimal.Binary64.ofDecimal negative digits (e - fraction.length)
    if x.isFinite then some x else none

/-- The double a plain scalar writes. -/
def real? (s : String) : Option Decimal.Binary64 :=
  if s ∈ [".inf", ".Inf", ".INF", "+.inf", "+.Inf", "+.INF"] then some (.infinite false)
  else if s ∈ ["-.inf", "-.Inf", "-.INF"] then some (.infinite true)
  else if s ∈ [".nan", ".NaN", ".NAN"] then some .nan
  else match s.toList with
    | '+' :: '+' :: _ => none
    | '+' :: '-' :: _ => none
    | cs => decimal? cs

/-- How an integer scalar reads: as a 64-bit number, not at all because it needs more than 64 and at
most 128 bits, or as no integer. -/
inductive IntReading where
  | number (n : Int)
  | tooWide
  | other

def readInt (s : String) : IntReading :=
  match int? s with
  | none => .other
  | some n =>
    if -(Int.pow 2 63) ≤ n ∧ n < Int.pow 2 64 then .number n
    else if -(Int.pow 2 127) ≤ n ∧ n < Int.pow 2 128 then .tooWide
    else .other

/-- What a plain scalar means; `none` for an integer that is too wide. -/
def plainValue (s : String) : Option Value :=
  if s.isEmpty || isNull s then some .null
  else match bool? s with
    | some b => some (.bool b)
    | none =>
      match readInt s with
      | .number n => some (.number (.int n))
      | .tooWide => none
      | .other =>
        if isPaddedDigits s.toList then some (.text s)
        else match real? s with
          | some x => some (.number (.real x))
          | none => some (.text s)

end MultiCluster.Yaml
