/-
Semantic versions: three numbers, a pre-release part and build metadata. `Version.read` is the strict
grammar and says what is wrong with a text it refuses; `Version.readLenient` also takes white space
around a version, a `v` in front and fewer than three numbers. Versions are ordered by their numbers,
a pre-release before its release, identifiers as numbers where both are, build metadata last.
-/
import MultiCluster.Text.Blank
import MultiCluster.Text.Cut
import MultiCluster.Text.Quoted
namespace MultiCluster

structure Version where
  major : Nat
  minor : Nat
  patch : Nat
  pre : String := ""
  build : String := ""
  deriving DecidableEq, Repr

namespace Version

/-- A part of a version's text. -/
inductive Part where
  | major
  | minor
  | patch
  | pre
  | build
  deriving DecidableEq, Repr

/-- Why a text is no version. -/
inductive Fault where
  | empty
  | unexpectedEnd (part : Part)
  | unexpectedChar (part : Part) (c : Char)
  | unexpectedCharAfter (part : Part) (c : Char)
  | leadingZero (part : Part)
  | tooLarge (part : Part)
  | emptySegment (part : Part)
  deriving DecidableEq, Repr

def Part.name : Part → String
  | .major => "major version number"
  | .minor => "minor version number"
  | .patch => "patch version number"
  | .pre => "pre-release identifier"
  | .build => "build metadata"

def Fault.message : Fault → String
  | .empty => "empty string, expected a semver version"
  | .unexpectedEnd p => "unexpected end of input while parsing " ++ p.name
  | .unexpectedChar p c => "unexpected character " ++ Text.quotedChar c ++ " while parsing " ++ p.name
  | .unexpectedCharAfter p c => "unexpected character " ++ Text.quotedChar c ++ " after " ++ p.name
  | .leadingZero p => "invalid leading zero in " ++ p.name
  | .tooLarge p => "value of " ++ p.name ++ " exceeds u64::MAX"
  | .emptySegment p => "empty identifier segment in " ++ p.name

/-! ## The strict grammar -/

def isDigit (c : Char) : Bool := '0' ≤ c && c ≤ '9'

def isIdentChar (c : Char) : Bool :=
  isDigit c || ('A' ≤ c && c ≤ 'Z') || ('a' ≤ c && c ≤ 'z') || c == '-'

/-- The largest number a version may hold. -/
def maxNumber : Nat := Nat.pow 2 64 - 1

/-- The digits at the head of a text, one at a time behind those that made `value`. -/
def readDigits (part : Part) (value : Nat) (started : Bool) : List Char → Except Fault (Nat × List Char)
  | [] => if started then .ok (value, []) else .error (.unexpectedEnd part)
  | c :: r =>
    if isDigit c then
      if value = 0 ∧ started then .error (.leadingZero part)
      else
        let v := value * 10 + (c.toNat - 48)
        if v ≤ maxNumber then readDigits part v true r else .error (.tooLarge part)
    else if started then .ok (value, c :: r)
    else .error (.unexpectedChar part c)

def readNumber (part : Part) (s : List Char) : Except Fault (Nat × List Char) := readDigits part 0 false s

def readDot (part : Part) : List Char → Except Fault (List Char)
  | [] => .error (.unexpectedEnd part)
  | c :: r => if c = '.' then .ok r else .error (.unexpectedCharAfter part c)

/-- Identifiers with dots between them, at the head of a text: none at all, or none empty and, in a
pre-release, no number with a zero in front. -/
def readIdentifiers (part : Part) (first : Bool) (s : List Char) : Except Fault (List Char × List Char) :=
  let segment := s.takeWhile isIdentChar
  match _h : s.dropWhile isIdentChar with
  | '.' :: r =>
    if segment.isEmpty then .error (.emptySegment part)
    else if part = .pre ∧ segment.all isDigit ∧ segment.length > 1 ∧ segment.head? = some '0' then
      .error (.leadingZero part)
    else match readIdentifiers part false r with
      | .ok (more, rest) => .ok (segment ++ '.' :: more, rest)
      | .error e => .error e
  | rest =>
    if segment.isEmpty then if first then .ok ([], s) else .error (.emptySegment part)
    else if part = .pre ∧ segment.all isDigit ∧ segment.length > 1 ∧ segment.head? = some '0' then
      .error (.leadingZero part)
    else .ok (segment, rest)
termination_by s.length
decreasing_by
  have := (List.dropWhile_suffix (l := s) isIdentChar).length_le
  rw [_h] at this
  simp at this
  omega

/-- A part behind its sign, which must hold something; none without the sign. -/
def readSuffix (part : Part) (sign : Char) : List Char → Except Fault (Option (List Char) × List Char)
  | [] => .ok (none, [])
  | c :: r =>
    if c = sign then
      match readIdentifiers part true r with
      | .ok ([], _) => .error (.emptySegment part)
      | .ok (ids, rest) => .ok (some ids, rest)
      | .error e => .error e
    else .ok (none, c :: r)

/-- The version a text writes. -/
def readChars (s : List Char) : Except Fault Version := do
  if s.isEmpty then throw .empty
  let (major, s) ← readNumber .major s
  let s ← readDot .major s
  let (minor, s) ← readNumber .minor s
  let s ← readDot .minor s
  let (patch, s) ← readNumber .patch s
  let (pre, s) ← readSuffix .pre '-' s
  let (build, s) ← readSuffix .build '+' s
  let last : Part := if build.isSome then .build else if pre.isSome then .pre else .patch
  match s with
  | [] => return ⟨major, minor, patch, String.ofList (pre.getD []), String.ofList (build.getD [])⟩
  | c :: _ => throw (.unexpectedCharAfter last c)

def read (s : String) : Except Fault Version := readChars s.toList

/-- The canonical text. -/
def render (v : Version) : String :=
  toString v.major ++ "." ++ toString v.minor ++ "." ++ toString v.patch ++
    (if v.pre.isEmpty then "" else "-" ++ v.pre) ++ (if v.build.isEmpty then "" else "+" ++ v.build)

/-! ## The lenient reading -/

/-- Without one `v` in front. -/
def dropV : List Char → List Char
  | 'v' :: r => r
  | 'V' :: r => r
  | s => s

/-- Adds zeros to a core with fewer than three parts. -/
def padCore (core : List Char) : List Char :=
  core ++ (List.replicate (3 - (Text.split '.' core).length) ['.', '0']).flatten

/-- The strict text that a lenient one stands for. -/
def normalize (s : List Char) : List Char :=
  let s := dropV (Text.trim s)
  let inCore (c : Char) : Bool := c != '-' && c != '+'
  padCore (s.takeWhile inCore) ++ s.dropWhile inCore

def readLenient (s : String) : Except Fault Version := readChars (normalize s.toList)

/-! ## Order -/

/-- An identifier between dots: a number, which may have zeros in front, or a word. -/
inductive Identifier where
  | number (value width : Nat)
  | word (s : String)
  deriving DecidableEq

namespace Identifier

def ofChars (s : List Char) : Identifier :=
  if s.all isDigit then .number (s.foldl (fun v d => v * 10 + (d.toNat - 48)) 0) s.length
  else .word (String.ofList s)

def rank : Identifier → Nat
  | .number .. => 0
  | .word _ => 1

def value : Identifier → Nat
  | .number v _ => v
  | .word _ => 0

def width : Identifier → Nat
  | .number _ w => w
  | .word _ => 0

def letters : Identifier → String
  | .number .. => ""
  | .word s => s

/-- Numbers before words; numbers by value, then by their zeros; words as texts. -/
def order : Identifier → Identifier → Ordering :=
  compareLex (compareOn rank) (compareLex (compareOn value) (compareLex (compareOn width) (compareOn letters)))

end Identifier

/-- The identifiers of a pre-release or of build metadata. -/
def identifiers (s : String) : List Identifier := (Text.split '.' s.toList).map Identifier.ofChars

def byIdentifiers (f : Version → String) (a b : Version) : Ordering :=
  List.compareLex Identifier.order (identifiers (f a)) (identifiers (f b))

def order : Version → Version → Ordering :=
  compareLex (compareOn major) <| compareLex (compareOn minor) <| compareLex (compareOn patch) <|
    compareLex (compareOn fun v => v.pre.isEmpty) <| compareLex (byIdentifiers pre) (byIdentifiers build)

/-- Not after. -/
def le (a b : Version) : Bool := order a b != .gt

end Version

end MultiCluster
