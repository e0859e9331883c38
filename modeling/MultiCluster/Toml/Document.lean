/-
TOML documents: lines that enter values under dotted keys and open tables. A table is opened once by
its header; a table that came about on the way to another may still be opened; tables made by dotted
keys grow by dotted keys alone, and what stands in braces or brackets is complete.
-/
import MultiCluster.Dict
import MultiCluster.Toml.Scalar
namespace MultiCluster.Toml

/-- How a table came about. -/
inductive Form where
  /-- On the way to a table whose header names it. -/
  | implied
  | header
  | dotted
  | inline
  deriving DecidableEq

inductive Value where
  | text (s : String)
  | integer (n : Int)
  | bool (b : Bool)
  /-- A number with a fraction, as written. -/
  | real (s : String)
  /-- A date or a time, as written. -/
  | moment (s : String)
  | array (items : List Value)
  | table (form : Form) (entries : List (String × Value))
  /-- The tables that headers in double brackets open. -/
  | tables (items : List (List (String × Value)))

namespace Value

instance : Inhabited Value := ⟨.array []⟩

abbrev Entries := List (String × Value)

/-! ## Entering -/

/-- Puts a value in place of that of the first entry with the key. -/
def replace (k : String) (v : Value) : Entries → Entries
  | [] => []
  | (k', v') :: r => if k' = k then (k', v) :: r else (k', v') :: replace k v r

/-- Changes the table at the end of a path, making the tables that are not there. Dotted keys lead
through no table that a header opened. -/
def within (dotted : Bool) (change : Form → Entries → Option Entries) (form : Form) :
    List String → Entries → Option Entries
  | [], es => change form es
  | k :: r, es =>
    match Dict.find k es with
    | none => do
      let form := if dotted then Form.dotted else .implied
      return es ++ [(k, .table form (← within dotted change form r []))]
    | some (.table form inner) =>
      if form = .inline ∨ (dotted ∧ form = .header) then none
      else do return replace k (.table form (← within dotted change form r inner)) es
    | some (.tables items) =>
      match items.getLast? with
      | none => none
      | some inner => do return replace k (.tables (items.dropLast ++ [← within dotted change .header r inner])) es
    | some _ => none

/-- A new entry. A table that is grown by a dotted key was made by dotted keys. -/
def enterKey (viaDots : Bool) (k : String) (v : Value) (form : Form) (es : Entries) : Option Entries :=
  if viaDots = (form != .dotted) then none
  else if (Dict.find k es).isSome then none
  else some (es ++ [(k, v)])

/-- Enters a value under a dotted key. -/
def enter (path : List String) (v : Value) (form : Form) (es : Entries) : Option Entries :=
  match path.getLast? with
  | none => none
  | some k => within true (enterKey (path.length != 1) k v) form path.dropLast es

/-- Opens the table of a header. -/
def openTable (k : String) (es : Entries) : Option Entries :=
  match Dict.find k es with
  | none => some (es ++ [(k, .table .header [])])
  | some (.table .implied inner) => some (replace k (.table .header inner) es)
  | some _ => none

/-- Opens one more table of those under a header in double brackets. -/
def openNext (k : String) (es : Entries) : Option Entries :=
  match Dict.find k es with
  | none => some (es ++ [(k, .tables [[]])])
  | some (.tables items) => some (replace k (.tables (items ++ [[]])) es)
  | some _ => none

end Value

/-! ## Reading -/

open Value (Entries)

def skipBlank (s : List Char) : List Char := s.dropWhile isBlank

/-- The rest behind a comment, if one begins here. -/
def skipComment : List Char → Option (List Char)
  | '#' :: r =>
    match r.dropWhile fun c => !isControl c with
    | [] => some []
    | '\n' :: rest => some ('\n' :: rest)
    | '\r' :: '\n' :: rest => some ('\n' :: rest)
    | _ => none
  | s => some s

/-- Blanks, line ends and comments, as they may stand between brackets. -/
def skipGap : Nat → List Char → Option (List Char)
  | 0, _ => none
  | n + 1, s =>
    match skipBlank s with
    | '\n' :: r => skipGap n r
    | '\r' :: '\n' :: r => skipGap n r
    | '#' :: r => do skipGap n (← skipComment ('#' :: r))
    | r => some r

def isBareKeyChar (c : Char) : Bool :=
  isDigit c || ('A' ≤ c && c ≤ 'Z') || ('a' ≤ c && c ≤ 'z') || c = '-' || c = '_'

/-- One key of a dotted key: bare or quoted. -/
def readKey (s : List Char) : Option (String × List Char) :=
  match s with
  | '"' :: _ => readText false s
  | '\'' :: _ => readText false s
  | _ =>
    let k := s.takeWhile isBareKeyChar
    if k.isEmpty then none else some (String.ofList k, s.dropWhile isBareKeyChar)

/-- Keys with dots between them. The bound is the number of characters. -/
def readKeys : Nat → List Char → Option (List String × List Char)
  | 0, _ => none
  | n + 1, s => do
    let (k, r) ← readKey (skipBlank s)
    match skipBlank r with
    | '.' :: r =>
      let (ks, rest) ← readKeys n r
      return (k :: ks, rest)
    | rest => return ([k], rest)

/-- The value of an unquoted word. -/
def wordValue (cs : List Char) : Option Value :=
  if cs = "true".toList then some (.bool true)
  else if cs = "false".toList then some (.bool false)
  else match int? cs with
    | some n => if inRange n then some (.integer n) else none
    | none =>
      if isReal cs then some (.real (String.ofList cs))
      else if isMoment cs then some (.moment (String.ofList cs))
      else none

mutual
/-- A value at the head of a text; it may hold others `depth` deep. The bound falls at each call. -/
def readValue (depth : Nat) : Nat → List Char → Option (Value × List Char)
  | 0, _ => none
  | n + 1, s =>
    match s with
    | '"' :: _ => (readText true s).map fun (t, r) => (.text t, r)
    | '\'' :: _ => (readText true s).map fun (t, r) => (.text t, r)
    | '[' :: r => if depth = 0 then none else (readItems (depth - 1) n r).map fun (xs, r) => (.array xs, r)
    | '\x7b' :: r =>
      if depth = 0 then none else (readEntries (depth - 1) n r []).map fun (es, r) => (.table .inline es, r)
    | _ =>
      let (word, r) := readWord s
      (wordValue word).map fun v => (v, r)

/-- Items up to the closing bracket; a comma may stand before it. -/
def readItems (depth : Nat) : Nat → List Char → Option (List Value × List Char)
  | 0, _ => none
  | n + 1, s => do
    match ← skipGap (n + 1) s with
    | ']' :: r => return ([], r)
    | r =>
      let (x, r) ← readValue depth n r
      match ← skipGap (n + 1) r with
      | ',' :: r =>
        let (xs, rest) ← readItems depth n r
        return (x :: xs, rest)
      | ']' :: rest => return ([x], rest)
      | _ => none

/-- Entries up to the closing brace; a comma may stand before it. -/
def readEntries (depth : Nat) : Nat → List Char → Entries → Option (Entries × List Char)
  | 0, _, _ => none
  | n + 1, s, es => do
    match ← skipGap (n + 1) s with
    | '\x7d' :: r => return (es, r)
    | r =>
      let (ks, r) ← readKeys (n + 1) r
      match r with
      | '=' :: r =>
        let (v, r) ← readValue depth n (skipBlank r)
        let es ← Value.enter ks v .inline es
        match ← skipGap (n + 1) r with
        | ',' :: r => readEntries depth n r es
        | '\x7d' :: rest => return (es, rest)
        | _ => none
      | _ => none
end

/-- Values may lie this deep in each other. -/
def maxDepth : Nat := 80

/-- What a line says. -/
inductive Line where
  | entry (keys : List String) (value : Value)
  | header (keys : List String)
  | nextHeader (keys : List String)

/-- The rest behind the end of a line. -/
def endLine (s : List Char) : Option (List Char) := do
  match ← skipComment (skipBlank s) with
  | [] => return []
  | '\n' :: r => return r
  | '\r' :: '\n' :: r => return r
  | _ => none

/-- A header behind its bracket. -/
def readHeader (s : List Char) : Option (Line × List Char) :=
  match s with
  | '[' :: r => do
    match ← readKeys (r.length + 1) r with
    | (ks, ']' :: ']' :: rest) => return (.nextHeader ks, rest)
    | _ => none
  | r => do
    match ← readKeys (r.length + 1) r with
    | (ks, ']' :: rest) => return (.header ks, rest)
    | _ => none

def readEntry (s : List Char) : Option (Line × List Char) := do
  match ← readKeys (s.length + 1) s with
  | (ks, '=' :: r) =>
    let (v, rest) ← readValue maxDepth (2 * s.length + 2) (skipBlank r)
    return (.entry ks v, rest)
  | _ => none

/-- The lines of a document. The bound is the number of characters. -/
def readLinesOf : Nat → List Char → Option (List Line)
  | 0, _ => none
  | n + 1, s => do
    match ← skipGap (n + 1) s with
    | [] => return []
    | '[' :: r =>
      let (line, r) ← readHeader r
      return line :: (← readLinesOf n (← endLine r))
    | r =>
      let (line, r) ← readEntry r
      return line :: (← readLinesOf n (← endLine r))

/-- Follows the lines; `place` is the table opened last. -/
def build : List Line → (place : List String) → Entries → Option Entries
  | [], _, es => some es
  | .entry ks v :: r, place, es => do
    build r place (← Value.within false (fun form inner => Value.enter ks v form inner) .header place es)
  | .header ks :: r, _, es => do
    let k ← ks.getLast?
    build r ks (← Value.within false (fun _ inner => Value.openTable k inner) .header ks.dropLast es)
  | .nextHeader ks :: r, _, es => do
    let k ← ks.getLast?
    build r ks (← Value.within false (fun _ inner => Value.openNext k inner) .header ks.dropLast es)

/-- The entries of a document; a byte-order mark may stand in front. -/
def read? (text : String) : Option Entries := do
  let s := match text.toList with
    | c :: r => if c.toNat = 0xFEFF then r else c :: r
    | [] => []
  build (← readLinesOf (s.length + 1) s) [] []

end MultiCluster.Toml
