/-
The client of the management API over HTTP. A collection lies under the root of the API, a record
under its collection, and an action is posted to its record. A reply counts by its status first: 404
means that the record it was about is not there, any other failure is one of the exchange, and only
the body of a success is read.
-/
import MultiCluster.Client.Call
import MultiCluster.Record.Wire
import MultiCluster.Rest.Exchange
import MultiCluster.Text.Base64
import MultiCluster.Text.Quoted
namespace MultiCluster

/-- What happened on the way: a request with the reply to it, or a wait. -/
inductive Event where
  | request (request : Rest.Request) (reply : Rest.Reply)
  | pause (time : Duration)

/-- The requests among events that reached the server. -/
def Event.requests (es : List Event) : List Rest.Request :=
  es.filterMap fun
    | .request _ .unreached => none
    | .request r _ => some r
    | .pause _ => none

structure RestClient where
  /-- The root of the API. -/
  root : String
  /-- A token that is not empty. -/
  token : Option String := none
  server : Rest.Server := {}
  events : List Event := []

/-- The root of the API of a server, which ends in the version path. -/
def apiRoot (serverUrl : String) : String :=
  let base := (serverUrl.toList.reverse.dropWhile (· == '/')).reverse
  String.ofList (if (Text.dropSuffix? "/v3".toList base).isSome then base else base ++ "/v3".toList)

namespace RestClient

/-- A client for a server at an address, with a token that counts unless it is empty. -/
def connect (serverUrl : String) (token : Option String) (server : Rest.Server) : RestClient :=
  { root := apiRoot serverUrl, token := token.filter fun t => !t.isEmpty, server }

/-- The client in words, which do not show the token. -/
def describe (c : RestClient) : String :=
  "RestClient \x7b base_url: " ++ Text.quotedText c.root ++ ", authenticated: " ++
    (if c.token.isSome then "true" else "false") ++ ", .. \x7d"

/-! ## Requests -/

def collectionUrl (c : RestClient) (kind : Kind) : String := c.root ++ "/" ++ kind.collection

def recordUrl (c : RestClient) (kind : Kind) (id : String) : String := c.root ++ "/" ++ kind.collection ++ "/" ++ id

/-- The name and the password that a URL carries, if it carries any. -/
def credentials? (u : Url) : Option (String × String) := do
  if u.user.isEmpty && u.password.isEmpty then none
  else
    let decoded (s : List Char) : Option String := Text.decode? (Url.percentDecode (Url.bytesOf s))
    return ((← decoded u.user), (← decoded u.password))

def basic (user password : String) : String :=
  "Basic " ++ String.ofList (Text.base64 (user ++ ":" ++ password).toUTF8.toList)

/-- Whether the token can stand in a header. -/
def isSendable (token : String) : Bool :=
  token.toList.all fun c => c == '\t' || (0x20 ≤ c.toNat && c.toNat != 0x7F)

def hasHost (u : Url) : Bool :=
  match u.host with
  | none => false
  | some h => h != .domain []

/-- Whether requests can go to the URL: its scheme is that of HTTP, its host has a name that can be
sent, and it is not too long. -/
def isUsable (u : Url) : Bool :=
  (u.scheme == "http".toList || u.scheme == "https".toList) && u.render.utf8ByteSize < 65535 &&
    (u.authorityText.all fun c => c != '"' && c != '\x60' && c != '\x7b' && c != '\x7d')

def cannotBuild : Fault := .transport "builder error"

def cannotBuildFor (u : Url) : Fault := .transport ("builder error for url (" ++ u.render ++ ")")

def notSent (u : Url) : Fault := .transport ("error sending request for url (" ++ u.render ++ ")")

/-- The request to an address, with pairs for its query where there are some. -/
def prepare (c : RestClient) (method : Rest.Method) (address : String) (pairs : Option (List (String × String)))
    (body : Option Json) : Except Fault Rest.Request :=
  match Url.parse? address with
  | none => .error cannotBuild
  | some u =>
    if hasHost u = false then .error (cannotBuildFor u)
    else if c.token.any fun t => !isSendable t then .error cannotBuild
    else
      -- a name in the address goes into a header of its own and is not sent in the URL
      let login := credentials? u
      let u := if login.isSome then u.withoutUser else u
      let url := match pairs with
        | some ps => u.withPairs ps
        | none => u
      if isUsable url then
        let bearer := c.token.map fun t => "Bearer " ++ t
        .ok { method, url, body, authorization := (login.map fun l => basic l.1 l.2).toList ++ bearer.toList }
      else .error (cannotBuildFor url)

/-! ## Replies -/

/-- The body of a success, as far as it came. -/
structure Body where
  bytes : List UInt8
  complete : Bool

/-- The message that the body of a failure carries, if it carries one; else the body itself. -/
def detail (body : Body) : String :=
  let text := if body.complete then Text.decodeMarked body.bytes else ""
  match (Json.Tree.read? text).bind errorMessage? with
  | some m => if m.isEmpty then text else m
  | none => text
where
  errorMessage? (t : Json.Tree) : Option String := do
    match ← Wire.fields? ["message"] t with
    | [message] => Wire.textField message
    | _ => none

/-- The fault of an answer that is no success; a 404 is about the record that `missing` speaks of. -/
def failure (url : Url) (missing : Option Fault) (status : Nat) (body : Body) : Fault :=
  (if status = 404 then missing else none).getD
    (.transport (Rest.statusText status ++ " from " ++ url.render ++ ": " ++ detail body))

/-- What a reply to a request means. -/
def judge (url : Url) (missing : Option Fault) : Rest.Reply → Except Fault Body
  | .response status bytes complete =>
    if Rest.isSuccess status then .ok ⟨bytes, complete⟩ else .error (failure url missing status ⟨bytes, complete⟩)
  | .unreached => .error (notSent url)
  | .closed => .error (notSent url)

def Body.read {α : Type} (read : Json.Tree → Option α) (b : Body) : Except Fault α :=
  if b.complete then
    match (Json.Tree.read? (Text.decodeMarked b.bytes)).bind read with
    | some a => .ok a
    | none => .error .decode
  else .error (.transport "error decoding response body")

/-! ## Exchanges -/

/-- Sends a request that could be prepared. -/
def send (missing : Option Fault) (r : Rest.Request) : Attempt Fault RestClient Body := fun c =>
  let (reply, server) := c.server.reply
  (judge r.url missing reply, { c with server, events := c.events ++ [.request r reply] })

/-- Makes a request. -/
def perform (method : Rest.Method) (address : RestClient → String) (pairs : Option (List (String × String)))
    (body : Option Json) (missing : Option Fault) : Attempt Fault RestClient Body := do
  let c ← Attempt.get
  send missing (← Attempt.ofExcept (c.prepare method (address c) pairs body))

/-- Makes a request whose answer is read. -/
def fetch {α : Type} (read : Json.Tree → Option α) (method : Rest.Method) (address : RestClient → String)
    (pairs : Option (List (String × String))) (body : Option Json) (missing : Option Fault) :
    Attempt Fault RestClient α := do
  Attempt.ofExcept ((← perform method address pairs body missing).read read)

def pause (time : Duration) : Attempt Fault RestClient Unit :=
  Attempt.modify fun c => { c with events := c.events ++ [.pause time] }

def next (kind : Kind) (page : Page kind.Record) : Attempt Fault RestClient (Option (Page kind.Record)) :=
  match page.next? with
  | none => return none
  | some url => do return some (← fetch (Page.ofTree? kind.ofTree?) .get (fun _ => url) none none none)

/-- That the record the request was about is not there. -/
def missingRecord (kind : Kind) (r : kind.Record) : Option Fault := some (.notFound kind (kind.id r))

def answer : (c : Call) → Attempt Fault RestClient c.Reply
  | .list kind filters =>
    fetch (Page.ofTree? kind.ofTree?) .get (fun c => c.collectionUrl kind) (some filters.toList) none none
  | .next kind page => next kind page
  | .byId kind id => fetch kind.ofTree? .get (fun c => c.recordUrl kind id) none none (some (.notFound kind id))
  | .create kind r => fetch kind.ofTree? .post (fun c => c.collectionUrl kind) none (some (kind.toJson r)) none
  | .update kind r =>
    fetch kind.ofTree? .put (fun c => c.recordUrl kind (kind.id r)) none (some (kind.toJson r)) (missingRecord kind r)
  | .delete kind r => do
    let _ ← perform .delete (fun c => c.recordUrl kind (kind.id r)) none none (missingRecord kind r)
  | .action kind r name input => do
    let _ ← perform .post (fun c => c.recordUrl kind (kind.id r)) (some [("action", name)]) (some input)
      (missingRecord kind r)
  | .link url => fetch some .get (fun _ => url) none none none
  | .sleep time => pause time

/-! ## The supply of pages -/

/-- Only a success has a body. -/
theorem isSuccess_of_judge {url : Url} {missing : Option Fault} {reply : Rest.Reply} {b : Body}
    (h : judge url missing reply = .ok b) : reply.isSuccess = true := by
  cases reply with
  | response status bytes complete =>
    by_cases hs : Rest.isSuccess status = true
    · exact hs
    · simp [judge, hs] at h
  | unreached => cases h
  | closed => cases h

/-- A body takes one of the replies that were left. -/
theorem length_perform {method : Rest.Method} {address : RestClient → String}
    {pairs : Option (List (String × String))} {body : Option Json} {missing : Option Fault} {c c' : RestClient}
    {b : Body} (h : (perform method address pairs body missing).run c = (.ok b, c')) :
    c'.server.replies.length < c.server.replies.length := by
  obtain ⟨_, _, h₁, h₂⟩ := Attempt.run_bind_eq_ok_iff.1 h
  cases h₁
  obtain ⟨r, s, hr, hsend⟩ := Attempt.run_bind_eq_ok_iff.1 h₂
  have hs : c = s := congrArg Prod.snd hr
  subst hs
  have hj : judge r.url missing c.server.reply.1 = .ok b := congrArg Prod.fst hsend
  have hc : { c with server := c.server.reply.2, events := c.events ++ [.request r c.server.reply.1] } = c' :=
    congrArg Prod.snd hsend
  rw [← hc]
  exact Rest.Server.length_reply (isSuccess_of_judge hj)

theorem length_fetch {α : Type} {read : Json.Tree → Option α} {method : Rest.Method} {address : RestClient → String}
    {pairs : Option (List (String × String))} {body : Option Json} {missing : Option Fault} {c c' : RestClient} {a : α}
    (h : (fetch read method address pairs body missing).run c = (.ok a, c')) :
    c'.server.replies.length < c.server.replies.length := by
  obtain ⟨b, s, hb, hread⟩ := Attempt.run_bind_eq_ok_iff.1 h
  have hs : s = c' := congrArg Prod.snd hread
  exact hs ▸ length_perform hb

theorem length_next {kind : Kind} {page p : Page kind.Record} {c c' : RestClient}
    (h : (next kind page).run c = (.ok (some p), c')) : c'.server.replies.length < c.server.replies.length := by
  unfold next at h
  split at h
  · cases h
  · obtain ⟨q, s, hq, hsome⟩ := Attempt.run_bind_eq_ok_iff.1 h
    have hs : s = c' := congrArg Prod.snd hsome
    exact hs ▸ length_fetch hq

instance : Client RestClient where
  answer := answer
  supply c := c.server.replies.length
  supply_next _ _ _ _ _ h := length_next h

end RestClient

end MultiCluster
