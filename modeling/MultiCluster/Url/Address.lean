/-
URLs. A URL is read from text in the way that browsers do: surrounding blanks and line breaks inside
do not count, the scheme and the host are put into lower case, the number behind the host is dropped
where the scheme implies it, dot segments are followed, and every part is percent-encoded where it has
to be. There is no base that a relative reference could refer to, so such a reference is no URL.
-/
import MultiCluster.Url.Host
import MultiCluster.Url.Path
namespace MultiCluster

structure Url where
  scheme : List Char
  /-- The user name and the password, encoded. -/
  user : List Char := []
  password : List Char := []
  host : Option Host := none
  /-- The number behind the host, unless it is the one that the scheme implies. -/
  portNumber : Option Nat := none
  path : List Char := []
  query : Option (List Char) := none
  fragment : Option (List Char) := none
  deriving DecidableEq

namespace Url

/-! ## Schemes -/

/-- The special schemes and the numbers that they imply. -/
def impliedNumber? (scheme : List Char) : Option Nat :=
  if scheme = "http".toList ∨ scheme = "ws".toList then some 80
  else if scheme = "https".toList ∨ scheme = "wss".toList then some 443
  else if scheme = "ftp".toList then some 21
  else none

def isFile (scheme : List Char) : Bool := scheme == "file".toList

def isSpecial (scheme : List Char) : Bool := (impliedNumber? scheme).isSome || isFile scheme

def isSchemeChar (c : Char) : Bool := isAlnum c || c == '+' || c == '-' || c == '.'

/-- The scheme in lower case, and what stands behind its colon. -/
def readScheme (s : List Char) : Option (List Char × List Char) := do
  let (scheme, rest) ← Text.cut? ':' s
  let first ← scheme.head?
  if isAlnum first && !('0' ≤ first && first ≤ '9') && scheme.all isSchemeChar then
    some ((Text.asciiLower (String.ofList scheme)).toList, rest)
  else none

/-! ## The authority -/

/-- Whether the authority ends here. -/
def endsAuthority (special : Bool) (c : Char) : Bool := c == '/' || c == '?' || c == '#' || (special && c == '\\')

/-- The parts before and after the last at sign. -/
def cutLastAt? (s : List Char) : Option (List Char × List Char) :=
  (Text.cut? '@' s.reverse).map fun p => (p.2.reverse, p.1.reverse)

/-- The user name and the password, encoded. -/
def readUser (s : List Char) : List Char × List Char :=
  match Text.cut? ':' s with
  | some (u, p) => (percentText keptInUser u, percentText keptInUser p)
  | none => (percentText keptInUser s, [])

/-- The host part, and what stands behind the first colon that is not in brackets. -/
def splitNumber (inBrackets : Bool) : List Char → List Char × Option (List Char)
  | [] => ([], none)
  | c :: r =>
    if c = ':' ∧ inBrackets = false then ([], some r)
    else
      let (h, p) := splitNumber (if c = '[' then true else if c = ']' then false else inBrackets) r
      (c :: h, p)

/-- A number of at most sixteen bits; it may be left out behind its colon. -/
def readNumber (scheme : List Char) : Option (List Char) → Option (Option Nat)
  | none => some none
  | some [] => some none
  | some s => do
    -- the number that the scheme implies is not written
    let n ← if s.all fun c => '0' ≤ c && c ≤ '9' then Host.number? 10 s else none
    if 65535 < n then none else if impliedNumber? scheme = some n then some none else some (some n)

/-- Reads an authority into a URL that has its scheme. -/
def readAuthority (scheme s : List Char) : Option Url := do
  let ((user, password), rest) := match cutLastAt? s with
    | some (u, r) => (readUser u, r)
    | none => (([], []), s)
  let (hostText, numberText) := splitNumber false rest
  if hostText.isEmpty then
    if isSpecial scheme || numberText.isSome || (cutLastAt? s).isSome then none
    else some { scheme, host := some (.domain []) }
  else do
    let host ← if isSpecial scheme then Host.parse? hostText else Host.parseOpaque? hostText
    return { scheme, user, password, host := some host, portNumber := ← readNumber scheme numberText }

/-! ## Path, query and fragment -/

/-- Reads what stands behind the path. -/
def readTail (s : List Char) (u : Url) : Url :=
  match Text.cut? '#' s with
  | some (q, f) =>
    { u with query := query? q, fragment := some (percentText keptInFragment f) }
  | none => { u with query := query? s }
where
  query? : List Char → Option (List Char)
    | '?' :: q => some (percentText (keptInQuery (isSpecial u.scheme)) q)
    | _ => none

def endsPath (c : Char) : Bool := c == '?' || c == '#'

/-- Reads what stands behind the authority. -/
def readRest (s : List Char) (u : Url) : Url :=
  let path := s.takeWhile fun c => !endsPath c
  let special := isSpecial u.scheme
  readTail (s.drop path.length)
    { u with path := if path.isEmpty && !special then [] else readPath special path }

/-! ## Reading -/

def isSlash (c : Char) : Bool := c == '/' || c == '\\'

def readAfterSlashes (scheme s : List Char) : Option Url := do
  let authority := s.takeWhile fun c => !endsAuthority (isSpecial scheme) c
  let u ← readAuthority scheme authority
  return readRest (s.drop authority.length) u

/-- The host of a file, if it is not the machine itself. -/
def readFileHost (s : List Char) : Option (Option Host) :=
  if s.isEmpty then some none
  else do
    let h ← Host.parse? s
    return if h = .domain "localhost".toList then none else some h

/-- Reads what stands behind the scheme of a file. -/
def readFile (scheme : List Char) : List Char → Option Url
  | a :: b :: s =>
    if isSlash a && isSlash b then do
      let host := s.takeWhile fun c => !endsAuthority true c
      return readRest (s.drop host.length) { scheme, host := ← readFileHost host }
    else some (readRest (a :: b :: s) { scheme })
  | s => some (readRest s { scheme })

/-- Reads what stands behind the colon of a scheme. -/
def readBody (scheme : List Char) (s : List Char) : Option Url :=
  if isFile scheme then readFile scheme s
  else if isSpecial scheme then readAfterSlashes scheme (s.dropWhile isSlash)
  else match s with
    | '/' :: '/' :: r => readAfterSlashes scheme r
    | '/' :: r => some (readRest ('/' :: r) { scheme })
    | s =>
      let path := s.takeWhile fun c => !endsPath c
      some (readTail (s.drop path.length) { scheme, path := percentText isPrintable path })

/-- The characters that count: none at the ends that is blank or a control, no tab or line break. -/
def trimmed (s : List Char) : List Char :=
  let s := s.dropWhile fun c => c ≤ ' '
  let s := (s.reverse.dropWhile fun c => c ≤ ' ').reverse
  s.filter fun c => !(c == '\t' || c == '\n' || c == '\r')

def parse? (s : String) : Option Url := do
  let (scheme, rest) ← readScheme (trimmed s.toList)
  readBody scheme rest

/-! ## Writing -/

def authorityText (u : Url) : List Char :=
  let user := u.user ++ if u.password.isEmpty then [] else ':' :: u.password
  (if user.isEmpty then [] else user ++ ['@']) ++ (u.host.map Host.text).getD [] ++
    (u.portNumber.map fun n => ':' :: Nat.toDigits 10 n).getD []

/-- Everything but the fragment. -/
def sentText (u : Url) : List Char :=
  u.scheme ++ [':'] ++ (if u.host.isSome || isFile u.scheme then '/' :: '/' :: authorityText u else []) ++ u.path ++
    (u.query.map fun q => '?' :: q).getD []

/-- The URL as it is requested, without its fragment. -/
def sent (u : Url) : String := String.ofList u.sentText

def render (u : Url) : String := String.ofList (u.sentText ++ (u.fragment.map fun f => '#' :: f).getD [])

/-! ## Queries -/

/-- The URL with pairs behind those its query has; an empty query is dropped. -/
def withPairs (pairs : List (String × String)) (u : Url) : Url :=
  let old := u.query.getD []
  let new := if old.isEmpty then formPairs pairs else if pairs.isEmpty then old else old ++ '&' :: formPairs pairs
  { u with query := if new.isEmpty then none else some new }

/-- The URL without the name and the password in it. -/
def withoutUser (u : Url) : Url := { u with user := [], password := [] }

end Url

end MultiCluster
