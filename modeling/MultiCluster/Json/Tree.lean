/-
JSON as written. A `Tree` keeps what a reader of records may still have to judge: members in their
order with their repetitions, the digits of numbers, and texts whose surrogate escapes do not pair up
(`none`). `Tree.read?` accepts the JSON grammar; `Tree.value?` is the value, if the tree has one.
-/
import MultiCluster.Json.Value
namespace MultiCluster.Json

/-- The digits of a number, as written. -/
structure Numeral where
  negative : Bool
  whole : List Nat
  fraction : Option (List Nat)
  exponent : Option (Bool × List Nat)

inductive Tree where
  | null
  | bool (b : Bool)
  | number (n : Numeral)
  | text (t : Option String)
  | array (items : List Tree)
  | object (members : List (Option String × Tree))

namespace Tree

instance : Inhabited Tree := ⟨.null⟩

/-! ## Texts -/

def hexValue? (c : Char) : Option Nat :=
  if '0' ≤ c ∧ c ≤ '9' then some (c.toNat - 48)
  else if 'a' ≤ c ∧ c ≤ 'f' then some (c.toNat - 87)
  else if 'A' ≤ c ∧ c ≤ 'F' then some (c.toNat - 55)
  else none

/-- The number four hexadecimal digits write. -/
def unit? (a b c d : Char) : Option Nat := do
  return ((← hexValue? a) * 16 + (← hexValue? b)) * 256 + (← hexValue? c) * 16 + (← hexValue? d)

def simpleEscape? (c : Char) : Option Char :=
  match c with
  | '"' => some '"'
  | '\\' => some '\\'
  | '/' => some '/'
  | 'b' => some '\x08'
  | 'f' => some '\x0c'
  | 'n' => some '\n'
  | 'r' => some '\r'
  | 't' => some '\t'
  | _ => none

/-- The content of a quoted text up to its closing quote, escaped units as numbers, and what
follows. -/
def readUnits : List Char → Option (List (Char ⊕ Nat) × List Char)
  | [] => none
  | '"' :: r => some ([], r)
  | '\\' :: 'u' :: a :: b :: c :: d :: r => do
    let n ← unit? a b c d
    let (us, rest) ← readUnits r
    return (.inr n :: us, rest)
  | '\\' :: e :: r => do
    let c ← simpleEscape? e
    let (us, rest) ← readUnits r
    return (.inl c :: us, rest)
  | c :: r =>
    if c.toNat < 0x20 ∨ c = '\\' then none
    else do
      let (us, rest) ← readUnits r
      return (.inl c :: us, rest)

/-- Joins the surrogate pairs; a surrogate without its partner makes the text unreadable. -/
def pairUp : List (Char ⊕ Nat) → Option (List Char)
  | [] => some []
  | .inl c :: r => (pairUp r).map (c :: ·)
  | .inr n :: .inr m :: r =>
    if 0xD800 ≤ n ∧ n ≤ 0xDBFF then
      if 0xDC00 ≤ m ∧ m ≤ 0xDFFF then
        (pairUp r).map (Char.ofNat (0x10000 + (n - 0xD800) * 0x400 + (m - 0xDC00)) :: ·)
      else none
    else if 0xDC00 ≤ n ∧ n ≤ 0xDFFF then none
    else (pairUp (.inr m :: r)).map (Char.ofNat n :: ·)
  | .inr n :: r => if 0xD800 ≤ n ∧ n ≤ 0xDFFF then none else (pairUp r).map (Char.ofNat n :: ·)

/-- A text behind its opening quote. -/
def readText (s : List Char) : Option (Option String × List Char) :=
  (readUnits s).map fun (us, rest) => ((pairUp us).map String.ofList, rest)

/-! ## Numbers -/

def digit? (c : Char) : Option Nat := if '0' ≤ c ∧ c ≤ '9' then some (c.toNat - 48) else none

/-- The longest run of digits. -/
def readDigits : List Char → List Nat × List Char
  | [] => ([], [])
  | c :: r =>
    match digit? c with
    | some d => let (ds, rest) := readDigits r; (d :: ds, rest)
    | none => ([], c :: r)

def readFraction : List Char → Option (Option (List Nat) × List Char)
  | '.' :: r =>
    match readDigits r with
    | ([], _) => none
    | (ds, rest) => some (some ds, rest)
  | s => some (none, s)

def readExponent (s : List Char) : Option (Option (Bool × List Nat) × List Char) :=
  let body (negative : Bool) (r : List Char) :=
    match readDigits r with
    | ([], _) => none
    | (ds, rest) => some (some (negative, ds), rest)
  match s with
  | c :: r =>
    if c = 'e' ∨ c = 'E' then
      match r with
      | '+' :: r => body false r
      | '-' :: r => body true r
      | _ => body false r
    else some (none, s)
  | [] => some (none, [])

/-- A number: no leading zero before another digit, digits on both sides of a point. -/
def readNumeral (s : List Char) : Option (Numeral × List Char) := do
  let (negative, s) := match s with
    | '-' :: r => (true, r)
    | _ => (false, s)
  let (whole, s) := readDigits s
  if whole = [] ∨ (whole.length > 1 ∧ whole.head? = some 0) then none
  else
    let (fraction, s) ← readFraction s
    let (exponent, s) ← readExponent s
    return (⟨negative, whole, fraction, exponent⟩, s)

/-! ## Values -/

def skipBlank (s : List Char) : List Char :=
  s.dropWhile fun c => c = ' ' || c = '\n' || c = '\t' || c = '\r'

mutual
/-- A value at the head of the text. The bound falls at each call; the length of the text is
enough. -/
def readValue : Nat → List Char → Option (Tree × List Char)
  | 0, _ => none
  | n + 1, s =>
    match skipBlank s with
    | 'n' :: 'u' :: 'l' :: 'l' :: r => some (.null, r)
    | 't' :: 'r' :: 'u' :: 'e' :: r => some (.bool true, r)
    | 'f' :: 'a' :: 'l' :: 's' :: 'e' :: r => some (.bool false, r)
    | '"' :: r => (readText r).map fun (t, rest) => (.text t, rest)
    | '[' :: r =>
      match skipBlank r with
      | ']' :: rest => some (.array [], rest)
      | r => (readItems n r).map fun (xs, rest) => (.array xs, rest)
    | '\x7b' :: r =>
      match skipBlank r with
      | '\x7d' :: rest => some (.object [], rest)
      | r => (readMembers n r).map fun (ms, rest) => (.object ms, rest)
    | s => (readNumeral s).map fun (d, rest) => (.number d, rest)

/-- Items up to the closing bracket. -/
def readItems : Nat → List Char → Option (List Tree × List Char)
  | 0, _ => none
  | n + 1, s => do
    let (x, r) ← readValue n s
    match skipBlank r with
    | ']' :: rest => return ([x], rest)
    | ',' :: r =>
      let (xs, rest) ← readItems n r
      return (x :: xs, rest)
    | _ => none

/-- Members up to the closing brace. -/
def readMembers : Nat → List Char → Option (List (Option String × Tree) × List Char)
  | 0, _ => none
  | n + 1, s =>
    match skipBlank s with
    | '"' :: r => do
      let (k, r) ← readText r
      match skipBlank r with
      | ':' :: r =>
        let (x, r) ← readValue n r
        match skipBlank r with
        | '\x7d' :: rest => return ([(k, x)], rest)
        | ',' :: r =>
          let (ms, rest) ← readMembers n r
          return ((k, x) :: ms, rest)
        | _ => none
      | _ => none
    | _ => none
end

/-- The one value a text holds; nothing but blanks may stand around it. -/
def read? (s : String) : Option Tree := do
  let (t, rest) ← readValue (s.toList.length + 1) s.toList
  if (skipBlank rest).isEmpty then some t else none

end Tree

/-! ## The number written -/

namespace Numeral

/-- The largest number 64 bits hold. -/
def maxWord : Nat := Nat.pow 2 64 - 1

/-- Digits are taken while the number fits 64 bits; what is left over. -/
def takeWord : Nat → List Nat → Nat × List Nat
  | v, [] => (v, [])
  | v, d :: r => if v * 10 + d ≤ maxWord then takeWord (v * 10 + d) r else (v, d :: r)

def natOf (ds : List Nat) : Nat := ds.foldl (fun v d => v * 10 + d) 0

/-- `v · 10^e`, rounded at each of its steps: the double of `v`, times or over the double of the
power of ten, in steps of `10^308` for numbers too small for one. -/
def scaled : Nat → Decimal.Binary64 → Int → Option Decimal.Binary64
  | 0, x, _ => some x
  | fuel + 1, x, e =>
    let power (n : Nat) := Decimal.Binary64.ofRatio false (Nat.pow 10 n) 1
    if e.natAbs ≤ 308 then
      if e ≥ 0 then
        let y := x.mul (power e.natAbs)
        if y.isFinite then some y else none
      else some (x.div (power e.natAbs))
    else if x.same (Decimal.Binary64.zero false) then some x
    else if e ≥ 0 then none
    else scaled fuel (x.div (power 308)) (e + 308)

/-- The double of a numeral that is no 64-bit integer; `none` beyond the doubles. -/
def double? (n : Numeral) : Option JsonNumber := do
  let (v, dropped) := takeWord 0 n.whole
  let (v, taken) := match n.fraction with
    | none => (v, 0)
    | some fs => let (v', left) := takeWord v fs; (v', fs.length - left.length)
  let base : Int := (dropped.length : Int) - taken
  let e ← match n.exponent with
    | none => some base
    | some (negative, ds) =>
      let k : Int := natOf ds
      if k ≤ 2147483647 then some (if negative then base - k else base + k)
      else if v ≠ 0 ∧ !negative then none
      else some (-100000)
  match ← scaled 20 (Decimal.Binary64.ofRatio false v 1) (max e (-5000)) with
  | .finite _ m q => some (.real n.negative m q)
  | _ => none

/-- The number of a numeral: the integer if it is one of 64 bits, else the double. -/
def number? (n : Numeral) : Option JsonNumber :=
  let v := natOf n.whole
  if n.fraction.isNone ∧ n.exponent.isNone then
    if ¬ n.negative ∧ v ≤ maxWord then some (.int v)
    else if n.negative ∧ v ≠ 0 ∧ v ≤ Nat.pow 2 63 then some (.int (-(v : Int)))
    else n.double?
  else n.double?

end Numeral

namespace Tree

/-- Lists may lie this deep in each other. -/
def maxDepth : Nat := 127

mutual
/-- The value of a tree: every text and number must have one, and lists may not lie deeper than
`depth`. -/
def valueIn (depth : Nat) : Tree → Option Json
  | .null => some .null
  | .bool b => some (.bool b)
  | .number n => n.number?.map .number
  | .text t => t.map .text
  | .array xs => if depth = 0 then none else (valueItems (depth - 1) xs).map .array
  | .object ms => if depth = 0 then none else (valueMembers (depth - 1) ms).map ofMembers

def valueItems (depth : Nat) : List Tree → Option (List Json)
  | [] => some []
  | x :: r => do return (← valueIn depth x) :: (← valueItems depth r)

def valueMembers (depth : Nat) : List (Option String × Tree) → Option (List (String × Json))
  | [] => some []
  | (k, x) :: r => do return ((← k), (← valueIn depth x)) :: (← valueMembers depth r)
end

def value? (t : Tree) : Option Json := valueIn maxDepth t

end Tree

mutual
/-- The tree of a value. -/
def toTree : Json → Tree
  | .null => .null
  | .bool b => .bool b
  | .number (.int n) => .number ⟨decide (n < 0), (Nat.toDigits 10 n.natAbs).map fun c => c.toNat - 48, none, none⟩
  | .number (.real s m q) =>
    let d := Decimal.shortest m q
    .number ⟨s, (Nat.toDigits 10 d.digits).map (fun c => c.toNat - 48), some [0],
      some (decide (d.exponent < 0), (Nat.toDigits 10 d.exponent.natAbs).map fun c => c.toNat - 48)⟩
  | .text s => .text (some s)
  | .array xs => .array (toTrees xs)
  | .object ms => .object (toTreeMembers ms)

def toTrees : List Json → List Tree
  | [] => []
  | x :: r => x.toTree :: toTrees r

def toTreeMembers : List (String × Json) → List (Option String × Tree)
  | [] => []
  | (k, x) :: r => (some k, x.toTree) :: toTreeMembers r
end

/-- The value a text holds, if it is JSON. -/
def read? (s : String) : Option Json := (Tree.read? s).bind Tree.value?

end MultiCluster.Json
