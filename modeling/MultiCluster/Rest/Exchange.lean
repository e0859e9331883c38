/-
Exchanges with a server: the requests that are sent, the replies to them, and a server that replies
from a script. Once its replies have run out it gives one that is no success, forever.
-/
import MultiCluster.Json.Value
import MultiCluster.Text.Utf8
import MultiCluster.Url.Address
namespace MultiCluster.Rest

inductive Method where
  | get
  | post
  | put
  | delete
  deriving DecidableEq, Repr

def Method.name : Method → String
  | .get => "GET"
  | .post => "POST"
  | .put => "PUT"
  | .delete => "DELETE"

structure Request where
  method : Method
  url : Url
  /-- The values of the authorization header, in the order in which they are sent. -/
  authorization : List String := []
  body : Option Json := none

/-- How the tool names itself to the server. -/
def userAgent : String := "mcapp/0.1.0"

def Request.contentType (r : Request) : Option String := r.body.map fun _ => "application/json"

/-- What comes back for a request. A body is always read as UTF-8: the content type of an answer is not carried, and
with it no other character set that it may name. -/
inductive Reply where
  /-- No connection to the server comes about, so it does not see the request. -/
  | unreached
  /-- The connection closes without an answer. -/
  | closed
  /-- An answer, whose body may break off before its end. -/
  | response (status : Nat) (body : List UInt8) (complete : Bool := true)
  deriving DecidableEq

def isSuccess (status : Nat) : Bool := 200 ≤ status && status < 300

def Reply.isSuccess : Reply → Bool
  | .response status _ _ => Rest.isSuccess status
  | _ => false

/-! ## Scripted servers -/

structure Server where
  replies : List Reply := []
  /-- The reply once there are no others. -/
  spent : Reply := .response 500 "no more responses".toUTF8.toList
  spent_fails : spent.isSuccess = false := by rfl

namespace Server

/-- The next reply, and the server after it. -/
def reply (s : Server) : Reply × Server :=
  match s.replies with
  | r :: q => (r, { s with replies := q })
  | [] => (s.spent, s)

/-- Every success takes one of the replies that were left. -/
theorem length_reply {s : Server} (h : s.reply.1.isSuccess = true) :
    s.reply.2.replies.length < s.replies.length := by
  unfold reply at *
  cases hs : s.replies with
  | nil =>
    rw [hs] at h
    rw [s.spent_fails] at h
    cases h
  | cons r q => simp

end Server

/-! ## Status texts -/

/-- The standard phrases. -/
def phrases : List (Nat × String) := [
  (100, "Continue"), (101, "Switching Protocols"), (102, "Processing"), (103, "Early Hints"), (200, "OK"),
  (201, "Created"), (202, "Accepted"), (203, "Non Authoritative Information"), (204, "No Content"),
  (205, "Reset Content"), (206, "Partial Content"), (207, "Multi-Status"), (208, "Already Reported"),
  (226, "IM Used"), (300, "Multiple Choices"), (301, "Moved Permanently"), (302, "Found"), (303, "See Other"),
  (304, "Not Modified"), (305, "Use Proxy"), (307, "Temporary Redirect"), (308, "Permanent Redirect"),
  (400, "Bad Request"), (401, "Unauthorized"), (402, "Payment Required"), (403, "Forbidden"), (404, "Not Found"),
  (405, "Method Not Allowed"), (406, "Not Acceptable"), (407, "Proxy Authentication Required"),
  (408, "Request Timeout"), (409, "Conflict"), (410, "Gone"), (411, "Length Required"),
  (412, "Precondition Failed"), (413, "Payload Too Large"), (414, "URI Too Long"),
  (415, "Unsupported Media Type"), (416, "Range Not Satisfiable"), (417, "Expectation Failed"),
  (418, "I'm a teapot"), (421, "Misdirected Request"), (422, "Unprocessable Entity"), (423, "Locked"),
  (424, "Failed Dependency"), (425, "Too Early"), (426, "Upgrade Required"), (428, "Precondition Required"),
  (429, "Too Many Requests"), (431, "Request Header Fields Too Large"), (451, "Unavailable For Legal Reasons"),
  (500, "Internal Server Error"), (501, "Not Implemented"), (502, "Bad Gateway"), (503, "Service Unavailable"),
  (504, "Gateway Timeout"), (505, "HTTP Version Not Supported"), (506, "Variant Also Negotiates"),
  (507, "Insufficient Storage"), (508, "Loop Detected"), (510, "Not Extended"),
  (511, "Network Authentication Required")]

/-- A status with its phrase. -/
def statusText (status : Nat) : String :=
  toString status ++ " " ++ (((phrases.find? fun p => p.1 == status).map Prod.snd).getD "<unknown status code>")

end MultiCluster.Rest
