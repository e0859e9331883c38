/-
Requests and answers as the messages that go over a connection, which serves one exchange and is then
closed. The body of an answer is complete when it has the length that was announced, or the last of
its chunks.
-/
import MultiCluster.Rest.Exchange
import MultiCluster.Text.Blank
import MultiCluster.Text.Cut
namespace MultiCluster.Rest

/-! ## Requests -/

/-- The path and the query. -/
def Request.target (r : Request) : String :=
  String.ofList (r.url.path ++ (r.url.query.map fun q => '?' :: q).getD [])

def Request.headers (r : Request) : List (String × String) :=
  [("host", String.ofList { r.url with user := [], password := [] }.authorityText), ("user-agent", userAgent),
    ("accept", "*/*"), ("connection", "close")] ++
  r.authorization.map (fun v => ("authorization", v)) ++
  (r.contentType.map fun t => ("content-type", t)).toList ++
  (r.body.map fun b => ("content-length", toString b.compact.utf8ByteSize)).toList

def Request.message (r : Request) : String :=
  r.method.name ++ " " ++ r.target ++ " HTTP/1.1\r\n" ++
    String.join (r.headers.map fun h => h.1 ++ ": " ++ h.2 ++ "\r\n") ++ "\r\n" ++ (r.body.map Json.compact).getD ""

/-! ## Answers -/

structure Head where
  status : Nat
  headers : List (String × String)

namespace Head

/-- The value of a header, the names of which are not sensitive to case. -/
def value? (h : Head) (name : String) : Option String := h.headers.lookup name

/-- The lines up to an empty one, and the bytes behind it. -/
def cutLines : (line : List Char) → List UInt8 → Option (List (List Char) × List UInt8)
  | [], 13 :: 10 :: r => some ([], r)
  | line, 13 :: 10 :: r => (cutLines [] r).map fun p => (line.reverse :: p.1, p.2)
  | line, b :: r => cutLines (Char.ofNat b.toNat :: line) r
  | _, [] => none

def readHeader (line : List Char) : Option (String × String) := do
  let (name, value) ← Text.cut? ':' line
  return (Text.asciiLower (String.ofList name), String.ofList (Text.trim value))

/-- The status in a first line. -/
def readStatus (line : List Char) : Option Nat := do
  match Text.split ' ' line with
  | _ :: code :: _ => (String.ofList code).toNat?
  | _ => none

/-- The head of an answer, and the bytes behind it. -/
def read (bs : List UInt8) : Option (Head × List UInt8) := do
  match ← cutLines [] bs with
  | (first :: lines, rest) => return (⟨← readStatus first, lines.filterMap readHeader⟩, rest)
  | ([], _) => none

/-- The head behind those that only announce it. -/
def readFinal : (fuel : Nat) → List UInt8 → Option (Head × List UInt8)
  | 0, _ => none
  | fuel + 1, bs => do
    let (h, rest) ← read bs
    if 100 ≤ h.status ∧ h.status < 200 then readFinal fuel rest else return (h, rest)

end Head

/-- The size in a first line of hexadecimal digits, and what stands behind the line. -/
def readSize : (size : Nat) → List UInt8 → Option (Nat × List UInt8)
  | size, b :: r =>
    match Url.hexValue? b with
    | some d => readSize (size * 16 + d) r
    | none => (skipLine (b :: r)).map fun rest => (size, rest)
  | _, [] => none
where
  skipLine : List UInt8 → Option (List UInt8)
    | 13 :: 10 :: r => some r
    | _ :: r => skipLine r
    | [] => none

/-- The bytes of chunks, and whether the last one came. -/
def readChunks : (fuel : Nat) → List UInt8 → List UInt8 × Bool
  | 0, _ => ([], false)
  | fuel + 1, bs =>
    match readSize 0 bs with
    | none => ([], false)
    | some (0, _) => ([], true)
    | some (n, r) =>
      if r.length < n then (r, false)
      else
        let (rest, complete) := readChunks fuel (r.drop (n + 2))
        (r.take n ++ rest, complete)

/-- The body behind a head, and whether it is complete. -/
def readBody (h : Head) (bs : List UInt8) : List UInt8 × Bool :=
  if h.status = 204 ∨ h.status = 304 then ([], true)
  else if h.value? "transfer-encoding" = some "chunked" then readChunks bs.length bs
  else
    match (h.value? "content-length").bind String.toNat? with
    | some n => (bs.take n, n ≤ bs.length)
    | none => (bs, true)

/-- The reply that came over a connection until it was closed. -/
def Reply.ofBytes (bs : List UInt8) : Reply :=
  match Head.readFinal bs.length bs with
  | none => .closed
  | some (h, rest) =>
    let (body, complete) := readBody h rest
    .response h.status body complete

end MultiCluster.Rest
