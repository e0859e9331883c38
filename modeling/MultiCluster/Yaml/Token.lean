/-
YAML tokens. A token is a scalar, an indicator, a property of the node that follows (anchor, tag) or
one of the brackets that indentation implies. `Token.scan?` reads the tokens of a text: it follows
line and column, opens and closes block collections where the indentation changes, and puts a `key`
in front of what turns out to be a key only when its colon is met.
-/
namespace MultiCluster.Yaml

inductive Token where
  | streamEnd
  | version (major minor : Nat)
  | tagDirective (handle expansion : String)
  | documentStart
  | documentEnd
  | blockSequence
  | blockMapping
  | blockEnd
  | flowSequence
  | flowSequenceEnd
  | flowMapping
  | flowMappingEnd
  | blockEntry
  | flowEntry
  | key
  | value
  | alias (name : String)
  | anchor (name : String)
  | tag (handle suffix : String)
  | scalar (plain : Bool) (text : String)
  deriving DecidableEq, Repr

/-! ## Characters -/

def isBreak (c : Char) : Bool :=
  c == '\n' || c == '\r' || c.toNat == 0x85 || c.toNat == 0x2028 || c.toNat == 0x2029

def isGap (c : Char) : Bool := c == ' ' || c == '\t'

/-- Letters, digits, hyphen and underscore of ASCII. -/
def isWord (c : Char) : Bool :=
  ('0' ≤ c && c ≤ '9') || ('A' ≤ c && c ≤ 'Z') || ('a' ≤ c && c ≤ 'z') || c == '_' || c == '-'

/-- A gap, a line break or the end of the text comes next. -/
def gapAhead : List Char → Bool
  | [] => true
  | c :: _ => isGap c || isBreak c

/-- A line break or the end of the text comes next. -/
def lineEnds : List Char → Bool
  | [] => true
  | c :: _ => isBreak c

/-- The characters a text may hold at all. -/
def isAllowed (c : Char) : Bool :=
  let n := c.toNat
  n == 0x09 || n == 0x0A || n == 0x0D || (0x20 ≤ n && n ≤ 0x7E) || n == 0x85 ||
  (0xA0 ≤ n && n ≤ 0xD7FF) || (0xE000 ≤ n && n ≤ 0xFFFD) || 0x10000 ≤ n

/-- A document marker, which counts at the start of a line only. -/
def markerAhead (c : Char) : List Char → Bool
  | a :: b :: d :: r => a == c && b == c && d == c && gapAhead r
  | _ => false

/-! ## The place in the text -/

/-- What is left of the text, and where that is. -/
structure Cursor where
  rest : List Char
  index : Nat := 0
  line : Nat := 0
  column : Nat := 0

namespace Cursor

/-- Past `n` characters of the line. -/
def skip (c : Cursor) (n : Nat) : Cursor :=
  { c with rest := c.rest.drop n, index := c.index + n, column := c.column + n }

/-- Past a line break; a carriage return and the line feed behind it are one break. -/
def skipBreak (c : Cursor) : Cursor :=
  match c.rest with
  | '\r' :: '\n' :: r => ⟨r, c.index + 2, c.line + 1, 0⟩
  | _ :: r => ⟨r, c.index + 1, c.line + 1, 0⟩
  | [] => c

/-- What a line break reads as: the breaks of ASCII and U+0085 as a line feed, others as
themselves. -/
def breakChar (c : Char) : Char := if c.toNat == 0x2028 || c.toNat == 0x2029 then c else '\n'

/-- Past the characters of the line that satisfy `p`, with those characters. -/
def takeWhile (c : Cursor) (p : Char → Bool) : List Char × Cursor :=
  let run := c.rest.takeWhile p
  (run, c.skip run.length)

def skipWhile (c : Cursor) (p : Char → Bool) : Cursor := (c.takeWhile p).2

/-- Past the gaps, a comment if one starts there, and to the end of the line. -/
def skipToLineEnd (c : Cursor) : Cursor :=
  let c := c.skipWhile isGap
  match c.rest with
  | '#' :: _ => c.skipWhile fun x => !isBreak x
  | _ => c

end Cursor

/-! ## Scalars over several lines -/

/-- The blanks between two parts of a flow scalar: the gaps if both parts stand on one line, else
the first line break and the breaks after it. -/
structure Spacing where
  gaps : List Char := []
  first : Option Char := none
  later : List Char := []

/-- What the blanks read as: gaps as they are, one line break as a space, more as one less. -/
def Spacing.text (s : Spacing) : List Char :=
  match s.first with
  | none => s.gaps
  | some '\n' => if s.later.isEmpty then [' '] else s.later
  | some c => c :: s.later

/-- Gathers gaps and breaks. A tab that indents a line less than `indent` is refused. -/
def readSpacing (indent : Option Nat) : Nat → Cursor → Spacing → Option (Spacing × Cursor)
  | 0, c, s => some (s, c)
  | fuel + 1, c, s =>
    match c.rest with
    | [] => some (s, c)
    | x :: _ =>
      if isGap x then
        if s.first.isSome then
          if x = '\t' ∧ indent.any (c.column < ·) then none
          else readSpacing indent fuel (c.skip 1) s
        else readSpacing indent fuel (c.skip 1) { s with gaps := s.gaps ++ [x] }
      else if isBreak x then
        let b := Cursor.breakChar x
        match s.first with
        | none => readSpacing indent fuel c.skipBreak { s with gaps := [], first := some b }
        | some _ => readSpacing indent fuel c.skipBreak { s with later := s.later ++ [b] }
      else some (s, c)

def isFlowIndicator (c : Char) : Bool := c == ',' || c == '[' || c == ']' || c == '\x7b' || c == '\x7d'

/-- A run of a plain scalar: up to a gap, to a colon before a gap, or in a flow collection to one of
its indicators. There a colon before an indicator or a question mark is refused. -/
def plainRun (inFlow : Bool) : List Char → Option (List Char)
  | [] => some []
  | c :: r =>
    if isGap c || isBreak c then some []
    else if c == ':' && inFlow && (match r with | x :: _ => isFlowIndicator x || x == '?' | [] => false) then none
    else if c == ':' && gapAhead r then some []
    else if inFlow && isFlowIndicator c then some []
    else (plainRun inFlow r).map (c :: ·)

/-- A plain scalar from the cursor on: its text (last character first, like `acc`), whether it ended
behind a line break, and the place behind it. -/
def readPlain (inFlow : Bool) (indent : Nat) :
    Nat → Cursor → Spacing → List Char → Option (List Char × Bool × Cursor)
  | 0, c, s, acc => some (acc, s.first.isSome, c)
  | fuel + 1, c, s, acc =>
    if c.column = 0 ∧ (markerAhead '-' c.rest || markerAhead '.' c.rest) then some (acc, s.first.isSome, c)
    else match c.rest with
    | '#' :: _ => some (acc, s.first.isSome, c)
    | _ => do
      let run ← plainRun inFlow c.rest
      -- the blanks before a run count only now that something follows them
      let (acc, s) := if run.isEmpty then (acc, s) else (run.reverse ++ (s.text.reverse ++ acc), {})
      let c := c.skip run.length
      match c.rest with
      | [] => some (acc, s.first.isSome, c)
      | x :: _ =>
        if isGap x || isBreak x then
          let (s, c) ← readSpacing (some indent) (c.rest.length + 1) c s
          if !inFlow && c.column < indent then some (acc, s.first.isSome, c)
          else readPlain inFlow indent fuel c s acc
        else some (acc, s.first.isSome, c)

/-! ## Quoted scalars -/

def hexValue? (c : Char) : Option Nat :=
  if '0' ≤ c ∧ c ≤ '9' then some (c.toNat - 48)
  else if 'a' ≤ c ∧ c ≤ 'f' then some (c.toNat - 87)
  else if 'A' ≤ c ∧ c ≤ 'F' then some (c.toNat - 55)
  else none

/-- The number that exactly `n` hexadecimal digits write. -/
def hexNumber? : Nat → Nat → List Char → Option Nat
  | 0, v, _ => some v
  | _ + 1, _, [] => none
  | n + 1, v, c :: r => (hexValue? c).bind fun d => hexNumber? n (v * 16 + d) r

/-- The character a one-letter escape stands for. -/
def simpleEscape? (c : Char) : Option Char :=
  match c with
  | '0' => some '\x00'
  | 'a' => some '\x07'
  | 'b' => some '\x08'
  | 't' | '\t' => some '\t'
  | 'n' => some '\n'
  | 'v' => some '\x0b'
  | 'f' => some '\x0c'
  | 'r' => some '\r'
  | 'e' => some '\x1b'
  | ' ' => some ' '
  | '"' => some '"'
  | '/' => some '/'
  | '\\' => some '\\'
  | 'N' => some (Char.ofNat 0x85)
  | '_' => some (Char.ofNat 0xA0)
  | 'L' => some (Char.ofNat 0x2028)
  | 'P' => some (Char.ofNat 0x2029)
  | _ => none

/-- The character of an escape behind its backslash, and how many characters write it. -/
def escape? : List Char → Option (Char × Nat)
  | [] => none
  | c :: r =>
    let coded (n : Nat) : Option (Char × Nat) := do
      let v ← hexNumber? n 0 r
      if (0xD800 ≤ v ∧ v ≤ 0xDFFF) ∨ v > 0x10FFFF then none else some (Char.ofNat v, n + 1)
    match c with
    | 'x' => coded 2
    | 'u' => coded 4
    | 'U' => coded 8
    | _ => (simpleEscape? c).map (·, 1)

/-- A run of a quoted scalar: up to a gap, the closing quote or an escaped line break. The text so
far (last character first), whether an escaped break ended the run, and the place behind. -/
def quotedRun (single : Bool) : Nat → Cursor → List Char → Option (List Char × Bool × Cursor)
  | 0, c, acc => some (acc, false, c)
  | fuel + 1, c, acc =>
    match c.rest with
    | [] => some (acc, false, c)
    | x :: r =>
      if isGap x || isBreak x then some (acc, false, c)
      else if single then
        match x, r with
        | '\'', '\'' :: _ => quotedRun single fuel (c.skip 2) ('\'' :: acc)
        | '\'', _ => some (acc, false, c)
        | _, _ => quotedRun single fuel (c.skip 1) (x :: acc)
      else if x = '"' then some (acc, false, c)
      else if x = '\\' then
        if (match r with | y :: _ => isBreak y | [] => false) then some (acc, true, (c.skip 1).skipBreak)
        else do
          let (y, n) ← escape? r
          quotedRun single fuel (c.skip (n + 1)) (y :: acc)
      else quotedRun single fuel (c.skip 1) (x :: acc)

/-- A quoted scalar behind its opening quote; its text with the last character first. -/
def readQuoted (single : Bool) : Nat → Cursor → List Char → Option (List Char × Cursor)
  | 0, _, _ => none
  | fuel + 1, c, acc =>
    if c.column = 0 ∧ (markerAhead '-' c.rest || markerAhead '.' c.rest) then none
    else if c.rest.isEmpty then none
    else do
      let (acc, escaped, c) ← quotedRun single (c.rest.length + 1) c acc
      match c.rest with
      | [] => none
      | x :: _ =>
        if x = (if single then '\'' else '"') then some (acc, c.skip 1)
        else
          -- an escaped break reads as nothing; no text holds the character that marks it here
          let start : Spacing := if escaped then { first := some '\x00' } else {}
          let (s, c) ← readSpacing none (c.rest.length + 1) c start
          let s := if s.first = some '\x00' then s.later else s.text
          readQuoted single fuel c (s.reverse ++ acc)

/-! ## Block scalars -/

inductive Chomping where
  | strip
  | clip
  | keep
  deriving DecidableEq

/-- The indicators behind `|` or `>`, in either order: how trailing breaks are kept and by how much
the text is indented. -/
def blockHeader? (c : Cursor) : Option (Chomping × Nat × Cursor) :=
  let chomping (x : Char) : Option Chomping :=
    if x = '+' then some .keep else if x = '-' then some .strip else none
  let digit (x : Char) : Option Nat := if '0' ≤ x ∧ x ≤ '9' then some (x.toNat - 48) else none
  match c.rest with
  | [] => some (.clip, 0, c)
  | x :: r =>
    match chomping x with
    | some k =>
      match r with
      | y :: _ =>
        match digit y with
        | some 0 => none
        | some d => some (k, d, c.skip 2)
        | none => some (k, 0, c.skip 1)
      | [] => some (k, 0, c.skip 1)
    | none =>
      match digit x with
      | some 0 => none
      | some d =>
        match r with
        | y :: _ =>
          match chomping y with
          | some k => some (k, d, c.skip 2)
          | none => some (.clip, d, c.skip 1)
        | [] => some (.clip, d, c.skip 1)
      | none => some (.clip, 0, c)

/-- Empty lines and indentation before a line of text. With `indent = 0` the indentation is still to
be found, and the deepest one seen is reported. -/
def blockBreaks (indent : Nat) : Nat → Cursor → List Char → Nat → Option (List Char × Nat × Cursor)
  | 0, c, acc, deepest => some (acc, deepest, c)
  | fuel + 1, c, acc, deepest =>
    let spaces := (c.rest.takeWhile (· == ' ')).length
    -- blanks beyond a known indentation belong to the text
    let n := if indent = 0 then spaces else min spaces (indent - c.column)
    let c := c.skip n
    let deepest := max deepest c.column
    match c.rest with
    | [] => some (acc, deepest, c)
    | x :: _ =>
      if x = '\t' ∧ (indent = 0 ∨ c.column < indent) then none
      else if isBreak x then blockBreaks indent fuel c.skipBreak (acc ++ [Cursor.breakChar x]) deepest
      else some (acc, deepest, c)

/-- The text of a block scalar line by line: `text` so far (last character first), the break behind its last line, the
empty lines after that, and whether the last line began with a gap. -/
structure BlockText where
  text : List Char := []
  last : Option Char := none
  empty : List Char := []
  indented : Bool := false

def blockLines (literal : Bool) (indent : Nat) : Nat → Cursor → BlockText → Option (BlockText × Cursor)
  | 0, c, b => some (b, c)
  | fuel + 1, c, b =>
    match c.rest with
    | [] => some (b, c)
    | x :: _ =>
      if c.column = indent then do
        let gap := isGap x
        -- folding: a break between two lines that begin with text reads as a space
        let joint :=
          if !literal && b.last == some '\n' && !b.indented && !gap then
            if b.empty.isEmpty then [' '] else []
          else b.last.toList
        let (run, c) := c.takeWhile fun y => !isBreak y
        let text := run.reverse ++ (b.empty.reverse ++ (joint.reverse ++ b.text))
        let last := c.rest.head?.map Cursor.breakChar
        let c := c.skipBreak
        let (empty, _, c) ← blockBreaks indent (c.rest.length + 1) c [] 0
        blockLines literal indent fuel c ⟨text, last, empty, gap⟩
      else some (b, c)

/-- A block scalar behind its `|` or `>`, in a block indented by `parent`. -/
def readBlock (literal : Bool) (parent : Int) (c : Cursor) : Option (List Char × Cursor) := do
  let (chomping, increment, c) ← blockHeader? c
  let c := c.skipToLineEnd
  if !lineEnds c.rest then none
  else
    let c := c.skipBreak
    let given := if increment = 0 then 0 else if parent ≥ 0 then parent.toNat + increment else increment
    let (empty, deepest, c) ← blockBreaks given (c.rest.length + 1) c [] 0
    let indent := if given = 0 then max (max deepest (parent + 1).toNat) 1 else given
    let (b, c) ← blockLines literal indent (c.rest.length + 1) c { empty }
    let tail := match chomping with
      | .strip => []
      | .clip => b.last.toList
      | .keep => b.last.toList ++ b.empty
    return (b.text.reverse ++ tail, c)

/-! ## Anchors, tags and directives -/

/-- A name behind `&` or `*`; only a gap or one of a few indicators may follow it. -/
def readName (c : Cursor) : Option (String × Cursor) :=
  let (name, c) := c.takeWhile isWord
  let closed := match c.rest with
    | [] => true
    | x :: _ => isGap x || isBreak x || "?:,]\x7d%@\x60".toList.contains x
  if name.isEmpty || !closed then none else some (String.ofList name, c)

def isUriChar (verbatim : Bool) (c : Char) : Bool :=
  isWord c || ";/?:@&=+$.%!~*'()".toList.contains c || (verbatim && ",[]".toList.contains c)

/-- The characters that `n` more escaped bytes complete. -/
def uriTail : Nat → Nat → List Char → Option (Nat × List Char)
  | 0, v, r => some (v, r)
  | n + 1, v, '%' :: a :: b :: r => do
    let x := (← hexValue? a) * 16 + (← hexValue? b)
    if x / 64 = 2 then uriTail n (v * 64 + x % 64) r else none
  | _ + 1, _, _ => none

/-- A character of a tag that is written by escaped bytes. -/
def uriEscape? : List Char → Option (Char × List Char)
  | '%' :: a :: b :: r => do
    let x := (← hexValue? a) * 16 + (← hexValue? b)
    let (v, rest) ←
      if x < 0x80 then some (x, r)
      else if x / 32 = 6 then uriTail 1 (x % 32) r
      else if x / 16 = 14 then uriTail 2 (x % 16) r
      else if x / 8 = 30 then uriTail 3 (x % 8) r
      else none
    return (Char.ofNat v, rest)
  | _ => none

/-- The longest run of characters a tag may hold, its escapes read. -/
def uriRun (verbatim : Bool) : Nat → Cursor → List Char → Option (List Char × Cursor)
  | 0, c, acc => some (acc, c)
  | fuel + 1, c, acc =>
    match c.rest with
    | [] => some (acc, c)
    | x :: _ =>
      if !isUriChar verbatim x then some (acc, c)
      else if x = '%' then do
        let (y, rest) ← uriEscape? c.rest
        uriRun verbatim fuel (c.skip (c.rest.length - rest.length)) (acc ++ [y])
      else uriRun verbatim fuel (c.skip 1) (acc ++ [x])

/-- A tag's handle: `!`, word characters, and a second `!` if there is one. -/
def readHandle (c : Cursor) : Option (List Char × Cursor) :=
  match c.rest with
  | '!' :: _ =>
    let (word, c) := (c.skip 1).takeWhile isWord
    match c.rest with
    | '!' :: _ => some ('!' :: word ++ ['!'], c.skip 1)
    | _ => some ('!' :: word, c)
  | _ => none

/-- A tag: `!<verbatim>`, `!handle!suffix`, `!suffix` or `!`. -/
def readTag (inFlow : Bool) (c : Cursor) : Option (Token × Cursor) := do
  let (handle, suffix, c) ← match c.rest with
    | '!' :: '<' :: _ => do
      let (suffix, c) ← uriRun true (c.rest.length + 1) (c.skip 2) []
      match c.rest with
      | '>' :: _ => if suffix.isEmpty then none else some ([], suffix, c.skip 1)
      | _ => none
    | _ => do
      let (handle, c) ← readHandle c
      if handle.length > 1 ∧ handle.getLast? = some '!' then
        let (suffix, c) ← uriRun false (c.rest.length + 1) c []
        if suffix.isEmpty then none else some (handle, suffix, c)
      else
        let (suffix, c) ← uriRun false (c.rest.length + 1) c handle.tail
        if suffix.isEmpty then some ([], ['!'], c) else some (['!'], suffix, c)
  let closed := gapAhead c.rest || (inFlow && c.rest.head? == some ',')
  if closed then some (.tag (String.ofList handle) (String.ofList suffix), c) else none

/-- A number of at most nine digits. -/
def readNumber (c : Cursor) : Option (Nat × Cursor) :=
  let (ds, c) := c.takeWhile fun x => '0' ≤ x && x ≤ '9'
  if ds.isEmpty || ds.length > 9 then none
  else some (ds.foldl (fun v d => v * 10 + (d.toNat - 48)) 0, c)

/-- A directive behind its percent sign, with the rest of its line. -/
def readDirective (c : Cursor) : Option (Token × Cursor) := do
  let (name, c) := c.takeWhile isWord
  if name.isEmpty || !gapAhead c.rest then none
  else
    let c := c.skipWhile isGap
    let (token, c) ←
      if name = "YAML".toList then do
        let (major, c) ← readNumber c
        match c.rest with
        | '.' :: _ =>
          let (minor, c) ← readNumber (c.skip 1)
          some (Token.version major minor, c)
        | _ => none
      else if name = "TAG".toList then do
        let (handle, c) ← readHandle c
        if handle ≠ ['!'] ∧ handle.getLast? ≠ some '!' then none
        else if !(c.rest.head?.any isGap) then none
        else
          let c := c.skipWhile isGap
          let (expansion, c) ← uriRun true (c.rest.length + 1) c []
          if expansion.isEmpty || !gapAhead c.rest then none
          else some (Token.tagDirective (String.ofList handle) (String.ofList expansion), c)
      else none
    let c := c.skipToLineEnd
    if lineEnds c.rest then some (token, c.skipBreak) else none

/-! ## The scanner -/

/-- A place where a key may have begun: how many tokens stand before it and where it is. A required
key is one whose place the indentation leaves no other use for. -/
structure PendingKey where
  required : Bool
  token : Nat
  index : Nat
  line : Nat
  column : Nat

/-- The scanner between two tokens. `keys` has one place per flow collection around, innermost
first, and a last one for the block context. -/
structure Scanner where
  cursor : Cursor
  tokens : Array Token := #[]
  indent : Int := -1
  indents : List Int := []
  keys : List (Option PendingKey) := [none]
  keyAllowed : Bool := true

namespace Scanner

def inFlow (s : Scanner) : Bool := s.keys.length > 1

def push (s : Scanner) (t : Token) : Scanner := { s with tokens := s.tokens.push t }

def insertToken (s : Scanner) (i : Nat) (t : Token) : Scanner :=
  { s with tokens := s.tokens.insertIdxIfInBounds i t }

/-- Opens a block collection at `column` if that is deeper than the current one; the token goes to
place `i`. -/
def roll (s : Scanner) (column i : Nat) (t : Token) : Scanner :=
  if !s.inFlow && s.indent < column then
    { s.insertToken i t with indents := s.indent :: s.indents, indent := column }
  else s

/-- Closes the block collections deeper than `column`. -/
def unroll (column : Int) : List Int → Scanner → Scanner
  | outer, s =>
    if s.inFlow || s.indent ≤ column then { s with indents := outer }
    else match outer with
      | [] => { s.push .blockEnd with indents := [], indent := -1 }
      | i :: r => unroll column r { s.push .blockEnd with indent := i }

/-- Gives up the innermost pending key; a required one may not be given up. -/
def dropKey (s : Scanner) : Option Scanner :=
  match s.keys with
  | some k :: r => if k.required then none else some { s with keys := none :: r }
  | _ => some s

/-- A key may begin here. -/
def saveKey (s : Scanner) : Option Scanner :=
  if s.keyAllowed then do
    let required := !s.inFlow && s.indent == s.cursor.column
    let s ← s.dropKey
    return { s with keys := some ⟨required, s.tokens.size, s.cursor.index, s.cursor.line, s.cursor.column⟩ ::
      s.keys.tail }
  else some s

/-- A key lies on one line and has at most 1024 characters; pending keys that passed that are given
up. -/
def dropStale (s : Scanner) : Option Scanner := do
  let keys ← s.keys.mapM fun k =>
    match k with
    | none => some none
    | some k =>
      if k.line < s.cursor.line || k.index + 1024 < s.cursor.index then
        if k.required then none else some none
      else some (some k)
  return { s with keys }

/-- Past blanks, comments and line breaks. In the block context a tab does not stand where a key may
begin. -/
def skipBlanks : Nat → Scanner → Scanner
  | 0, s => s
  | fuel + 1, s =>
    -- a byte-order mark may begin the text
    let c := if s.cursor.index = 0 ∧ s.cursor.rest.head? = some (Char.ofNat 0xFEFF) then s.cursor.skip 1 else s.cursor
    let tabs := s.inFlow || !s.keyAllowed
    let c := c.skipWhile fun x => x == ' ' || (tabs && x == '\t')
    let c := match c.rest with
      | '#' :: _ => c.skipWhile fun x => !isBreak x
      | _ => c
    match c.rest with
    | [] => { s with cursor := c }
    | x :: _ =>
      if isBreak x then skipBlanks fuel { s with cursor := c.skipBreak, keyAllowed := s.keyAllowed || !s.inFlow }
      else { s with cursor := c }

/-- An indicator of one character. -/
def indicator (s : Scanner) (t : Token) : Scanner := { s with cursor := s.cursor.skip 1 }.push t

def openFlow (s : Scanner) (t : Token) : Option Scanner := do
  let s ← s.saveKey
  return { s with keys := none :: s.keys, keyAllowed := true }.indicator t

def closeFlow (s : Scanner) (t : Token) : Option Scanner := do
  let s ← s.dropKey
  let keys := if s.inFlow then s.keys.tail else s.keys
  return { s with keys, keyAllowed := false }.indicator t

def entry (s : Scanner) : Option Scanner := do
  let s ← if s.inFlow then some s
    else if s.keyAllowed then some (s.roll s.cursor.column s.tokens.size .blockSequence)
    else none
  let s ← s.dropKey
  return { s with keyAllowed := true }.indicator .blockEntry

def explicitKey (s : Scanner) : Option Scanner := do
  let s ← if s.inFlow then some s
    else if s.keyAllowed then some (s.roll s.cursor.column s.tokens.size .blockMapping)
    else none
  let s ← s.dropKey
  return { s with keyAllowed := !s.inFlow }.indicator .key

/-- A colon: the pending key, if there is one, is a key indeed. -/
def colon (s : Scanner) : Option Scanner :=
  match s.keys with
  | some k :: r =>
    -- tokens of the key itself may have been read since, so its mark goes in before them
    let s := s.insertToken k.token .key
    let s := s.roll k.column k.token .blockMapping
    some ({ s with keys := none :: r, keyAllowed := false }.indicator .value)
  | _ => do
    let s ← if s.inFlow then some s
      else if s.keyAllowed then some (s.roll s.cursor.column s.tokens.size .blockMapping)
      else none
    return { s with keyAllowed := !s.inFlow }.indicator .value

/-- A token that may begin a key but is not followed by another one on its line. -/
def content (s : Scanner) (read : Scanner → Option (Token × Cursor)) : Option Scanner := do
  let s ← s.saveKey
  let s := { s with keyAllowed := false }
  let (t, cursor) ← read s
  return { s with cursor }.push t

def plainScalar (s : Scanner) : Option Scanner := do
  let s ← s.saveKey
  let s := { s with keyAllowed := false }
  let (text, broken, cursor) ←
    readPlain s.inFlow (s.indent + 1).toNat (s.cursor.rest.length + 1) s.cursor {} []
  return { s with cursor, keyAllowed := broken }.push (.scalar true (String.ofList text.reverse))

def blockScalar (s : Scanner) (literal : Bool) : Option Scanner := do
  let s ← s.dropKey
  let (text, cursor) ← readBlock literal s.indent (s.cursor.skip 1)
  return { s with cursor, keyAllowed := true }.push (.scalar false (String.ofList text))

/-- What ends all block collections: directives, document markers and the end of the text. -/
def outermost (s : Scanner) : Option Scanner := do
  let s ← (unroll (-1) s.indents s).dropKey
  return { s with keyAllowed := false }

/-- Whether a plain scalar may begin with these characters. -/
def startsPlain (inFlow : Bool) : List Char → Bool
  | [] => false
  | c :: r =>
    if c == '-' then match r with | x :: _ => !isGap x | [] => true
    else if c == '?' || c == ':' then !inFlow && !gapAhead r
    else !(isGap c || isBreak c || ",[]\x7b\x7d#&*!|>'\"%@\x60".toList.contains c)

/-- The next token or tokens; the flag says that the text has ended. -/
def step (s : Scanner) : Option (Scanner × Bool) := do
  let s := skipBlanks (s.cursor.rest.length + 1) s
  let s ← s.dropStale
  let s := unroll s.cursor.column s.indents s
  let c := s.cursor
  let go (r : Option Scanner) : Option (Scanner × Bool) := r.map (·, false)
  match c.rest with
  | [] => do
    let s ← s.outermost
    return (s.push .streamEnd, true)
  | x :: r =>
    if c.column = 0 ∧ x = '%' then do
      let s ← s.outermost
      let (t, cursor) ← readDirective (s.cursor.skip 1)
      return ({ s with cursor }.push t, false)
    else if c.column = 0 ∧ markerAhead '-' c.rest then do
      let s ← s.outermost
      return ({ s with cursor := s.cursor.skip 3 }.push .documentStart, false)
    else if c.column = 0 ∧ markerAhead '.' c.rest then do
      let s ← s.outermost
      return ({ s with cursor := s.cursor.skip 3 }.push .documentEnd, false)
    else if x = '[' then go (s.openFlow .flowSequence)
    else if x = '\x7b' then go (s.openFlow .flowMapping)
    else if x = ']' then go (s.closeFlow .flowSequenceEnd)
    else if x = '\x7d' then go (s.closeFlow .flowMappingEnd)
    else if x = ',' then do
      let s ← s.dropKey
      return ({ s with keyAllowed := true }.indicator .flowEntry, false)
    else if x = '-' ∧ gapAhead r then go s.entry
    else if x = '?' ∧ (s.inFlow || gapAhead r) then go s.explicitKey
    else if x = ':' ∧ (s.inFlow || gapAhead r) then go s.colon
    else if x = '*' then go (s.content fun s => (readName (s.cursor.skip 1)).map fun (n, c) => (.alias n, c))
    else if x = '&' then go (s.content fun s => (readName (s.cursor.skip 1)).map fun (n, c) => (.anchor n, c))
    else if x = '!' then go (s.content fun s => readTag s.inFlow s.cursor)
    else if x = '|' ∧ !s.inFlow then go (s.blockScalar true)
    else if x = '>' ∧ !s.inFlow then go (s.blockScalar false)
    else if x = '\'' ∨ x = '"' then
      go (s.content fun s =>
        (readQuoted (x == '\'') (s.cursor.rest.length + 1) (s.cursor.skip 1) []).map fun (t, c) =>
          (.scalar false (String.ofList t.reverse), c))
    else if startsPlain s.inFlow c.rest then go s.plainScalar
    else none

/-- Steps to the end of the text. Every step but the last takes a character, so the length of the
text bounds them. -/
def run : Nat → Scanner → Option (List Token)
  | 0, _ => none
  | fuel + 1, s => do
    let (s, done) ← s.step
    if done then return s.tokens.toList else run fuel s

end Scanner

/-- The tokens of a text, if it scans; the last one is `streamEnd`. -/
def Token.scan? (text : String) : Option (List Token) :=
  let cs := text.toList
  if cs.all isAllowed then Scanner.run (cs.length + 2) { cursor := { rest := cs } } else none

end MultiCluster.Yaml
