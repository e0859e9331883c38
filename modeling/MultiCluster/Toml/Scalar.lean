/-
The single values of TOML: quoted texts, numbers, truth values, and moments of time. Numbers with a
fraction and moments are kept as they are written; a text that is none of these is no value.
-/
import MultiCluster.Decimal.Binary64
import MultiCluster.Json.Tree
namespace MultiCluster.Toml

def isBlank (c : Char) : Bool := c = ' ' || c = '\t'

/-- Controls other than the tab stand nowhere in a document except as line ends. -/
def isControl (c : Char) : Bool := (c.toNat < 0x20 && c ≠ '\t') || c.toNat = 0x7F

def isDigit (c : Char) : Bool := '0' ≤ c && c ≤ '9'

/-! ## Texts -/

/-- The character of a code written in hexadecimal digits. -/
def charOf? (digits : List Char) : Option Char := do
  let n ← digits.foldlM (fun v c => (Json.Tree.hexValue? c).map fun d => v * 16 + d) 0
  if n < 0xD800 ∨ (0xDFFF < n ∧ n ≤ 0x10FFFF) then some (Char.ofNat n) else none

def simpleEscape? (c : Char) : Option Char :=
  match c with
  | 'b' => some '\x08'
  | 't' => some '\t'
  | 'n' => some '\n'
  | 'f' => some '\x0c'
  | 'r' => some '\r'
  | 'e' => some '\x1b'
  | '"' => some '"'
  | '\\' => some '\\'
  | _ => none

/-- The character of an escape behind its backslash, and the rest. -/
def readEscape : List Char → Option (Char × List Char)
  | 'x' :: a :: b :: r => do return (← charOf? [a, b], r)
  | 'u' :: a :: b :: c :: d :: r => do return (← charOf? [a, b, c, d], r)
  | 'U' :: a :: b :: c :: d :: e :: f :: g :: h :: r => do return (← charOf? [a, b, c, d, e, f, g, h], r)
  | c :: r => do return (← simpleEscape? c, r)
  | [] => none

/-- A text in double quotes, behind the first. The bound is the number of characters. -/
def readBasic : Nat → List Char → Option (List Char × List Char)
  | 0, _ => none
  | _, [] => none
  | _ + 1, '"' :: r => some ([], r)
  | n + 1, '\\' :: r => do
    let (c, r) ← readEscape r
    let (s, rest) ← readBasic n r
    return (c :: s, rest)
  | n + 1, c :: r =>
    if isControl c then none
    else do
      let (s, rest) ← readBasic n r
      return (c :: s, rest)

/-- A text in single quotes, behind the first. -/
def readLiteral : List Char → Option (List Char × List Char)
  | [] => none
  | '\'' :: r => some ([], r)
  | c :: r =>
    if isControl c then none
    else do
      let (s, rest) ← readLiteral r
      return (c :: s, rest)

/-- The quotes at the head of a text, five at most. -/
def leadingQuotes (quote : Char) (s : List Char) : Nat := ((s.take 5).takeWhile (· = quote)).length

/-- Behind a backslash at the end of a line the blanks and line ends are left out. -/
def skipLineEnd (s : List Char) : Option (List Char) :=
  match s.dropWhile isBlank with
  | '\n' :: r => some (r.dropWhile fun c => isBlank c || c = '\n' || c = '\r')
  | '\r' :: '\n' :: r => some (r.dropWhile fun c => isBlank c || c = '\n' || c = '\r')
  | _ => none

/-- A text of several lines up to three quotes, which may follow up to two quotes of its own. -/
def readLines (quote : Char) (escapes : Bool) : Nat → List Char → Option (List Char × List Char)
  | 0, _ => none
  | _, [] => none
  | n + 1, c :: r =>
    let quotes := leadingQuotes quote (c :: r)
    if 3 ≤ quotes then some (List.replicate (quotes - 3) quote, (c :: r).drop quotes)
    else
      let plain (x : Char) (r : List Char) := do
        let (s, rest) ← readLines quote escapes n r
        return (x :: s, rest)
      match c, r with
      | '\r', '\n' :: r => plain '\n' r
      | '\n', r => plain '\n' r
      | '\\', r =>
        if escapes then
          match skipLineEnd r with
          | some r => readLines quote escapes n r
          | none => do
            let (x, r) ← readEscape r
            plain x r
        else plain '\\' r
      | c, r => if isControl c then none else plain c r

/-- A line end right behind the opening quotes does not count. -/
def skipFirstLineEnd : List Char → List Char
  | '\n' :: r => r
  | '\r' :: '\n' :: r => r
  | s => s

/-- A quoted text; `several` allows for the forms of several lines. -/
def readText (several : Bool) (s : List Char) : Option (String × List Char) :=
  let bound := s.length + 1
  let read := match s with
    | '"' :: '"' :: '"' :: r => if several then readLines '"' true bound (skipFirstLineEnd r) else some ([], '"' :: r)
    | '\'' :: '\'' :: '\'' :: r =>
      if several then readLines '\'' false bound (skipFirstLineEnd r) else some ([], '\'' :: r)
    | '"' :: r => readBasic bound r
    | '\'' :: r => readLiteral r
    | _ => none
  read.map fun (t, rest) => (String.ofList t, rest)

/-! ## Numbers -/

/-- Digits with single underscores between them. -/
def isGrouped (digit : Char → Bool) : List Char → Bool
  | [] => false
  | [c] => digit c
  | c :: '_' :: r => digit c && isGrouped digit r
  | c :: r => digit c && isGrouped digit r

def natIn (base : Nat) (cs : List Char) : Nat :=
  cs.foldl (fun v c => match Json.Tree.hexValue? c with
    | some d => v * base + d
    | none => v) 0

def isDigitIn (base : Nat) (c : Char) : Bool := (Json.Tree.hexValue? c).any (· < base)

/-- Digits without a zero in front of others. -/
def isWhole (cs : List Char) : Bool := isGrouped isDigit cs && (cs.length = 1 || cs.head? ≠ some '0')

/-- The sign in front of a number. -/
def readSign : List Char → Bool × List Char
  | '-' :: r => (true, r)
  | '+' :: r => (false, r)
  | r => (false, r)

/-- An integer: decimal with or without a sign, or hexadecimal, octal or binary. -/
def int? (cs : List Char) : Option Int :=
  match cs with
  | '0' :: 'x' :: r => if isGrouped (isDigitIn 16) r then some (natIn 16 r) else none
  | '0' :: 'o' :: r => if isGrouped (isDigitIn 8) r then some (natIn 8 r) else none
  | '0' :: 'b' :: r => if isGrouped (isDigitIn 2) r then some (natIn 2 r) else none
  | _ =>
    let (negative, digits) := readSign cs
    if isWhole digits then some (if negative then -(natIn 10 digits : Int) else natIn 10 digits) else none

/-- Integers of 128 bits, signed or not, can be held. -/
def inRange (n : Int) : Bool := -(Int.pow 2 127) ≤ n && n < Int.pow 2 128

/-- A number with a fraction, an exponent or both, within the range of doubles; an infinity or no
number. -/
def isReal (cs : List Char) : Bool :=
  let (_, body) := readSign cs
  if body = "inf".toList ∨ body = "nan".toList then true
  else
    let whole := body.takeWhile fun c => isDigit c || c = '_'
    let (fraction, rest) := match body.dropWhile fun c => isDigit c || c = '_' with
      | '.' :: r => (some (r.takeWhile fun c => isDigit c || c = '_'), r.dropWhile fun c => isDigit c || c = '_')
      | r => (none, r)
    let exponent := match rest with
      | [] => none
      | c :: r => if c = 'e' ∨ c = 'E' then some (some (readSign r)) else some none
    let shape := isWhole whole && fraction.all (isGrouped isDigit) &&
      (match exponent with
        | none => fraction.isSome
        | some none => false
        | some (some (_, ds)) => isGrouped isDigit ds)
    let digits := natIn 10 (whole ++ fraction.getD [])
    let e : Int := match exponent with
      | some (some (negative, ds)) => if negative then -(natIn 10 ds : Int) else natIn 10 ds
      | _ => 0
    let places := ((fraction.getD []).filter isDigit).length
    shape && (Decimal.Binary64.ofDecimal false digits (e - places)).isFinite

/-! ## Moments -/

/-- The number that exactly `n` digits write. -/
def digits? (n : Nat) (cs : List Char) : Option (Nat × List Char) :=
  let ds := cs.take n
  if ds.length = n ∧ ds.all isDigit then some (natIn 10 ds, cs.drop n) else none

def expect? (c : Char) : List Char → Option (List Char)
  | x :: r => if x = c then some r else none
  | [] => none

def daysInMonth (y m : Nat) : Nat :=
  if m = 2 then if y % 4 = 0 ∧ (y % 100 ≠ 0 ∨ y % 400 = 0) then 29 else 28
  else if m = 4 ∨ m = 6 ∨ m = 9 ∨ m = 11 then 30
  else 31

/-- A date at the head of a text. -/
def readDate (cs : List Char) : Option (List Char) := do
  let (y, cs) ← digits? 4 cs
  let (m, cs) ← digits? 2 (← expect? '-' cs)
  let (d, cs) ← digits? 2 (← expect? '-' cs)
  if 1 ≤ m ∧ m ≤ 12 ∧ 1 ≤ d ∧ d ≤ daysInMonth y m then some cs else none

/-- A time of day at the head of a text; seconds may be left out. -/
def readTime (cs : List Char) : Option (List Char) := do
  let (h, cs) ← digits? 2 cs
  let (m, cs) ← digits? 2 (← expect? ':' cs)
  if 23 < h ∨ 59 < m then none
  else match cs with
    | ':' :: r => do
      let (s, cs) ← digits? 2 r
      if 60 < s then none
      else match cs with
        | '.' :: r => if (r.takeWhile isDigit).isEmpty then none else some (r.dropWhile isDigit)
        | cs => some cs
    | cs => some cs

/-- An offset that ends a text, or nothing. -/
def isOffset : List Char → Bool
  | [] => true
  | ['Z'] => true
  | ['z'] => true
  | c :: r =>
    (c = '+' || c = '-') &&
    match (do
      let (h, cs) ← digits? 2 r
      let (m, cs) ← digits? 2 (← expect? ':' cs)
      if cs.isEmpty ∧ h ≤ 23 ∧ m ≤ 59 then some () else none : Option Unit) with
    | some () => true
    | none => false

/-- A date, a time, or both with or without an offset. -/
def isMoment (cs : List Char) : Bool :=
  match readDate cs with
  | some [] => true
  | some (c :: r) => (c = 'T' || c = 't' || c = ' ') && (readTime r).any isOffset
  | none => readTime cs == some []

/-! ## Unquoted values -/

/-- The characters of an unquoted value; a date and a time may be divided by one space. -/
def isWordChar (c : Char) : Bool :=
  !(isBlank c || isControl c || c = ',' || c = '[' || c = ']' || c = '\x7b' || c = '\x7d' || c = '#' || c = '=' ||
    c = '"' || c = '\'')

def readWord (s : List Char) : List Char × List Char :=
  let word := s.takeWhile isWordChar
  match s.dropWhile isWordChar with
  | ' ' :: c :: r =>
    if readDate word = some [] ∧ isDigit c then
      (word ++ ' ' :: (c :: r).takeWhile isWordChar, (c :: r).dropWhile isWordChar)
    else (word, ' ' :: c :: r)
  | rest => (word, rest)

end MultiCluster.Toml
