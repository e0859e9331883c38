/-
The command line program. A run is a pure computation on what has come in so far. When it needs a
reply that has not come, or a line that has not been typed, that is fetched and the run is done again
with it; what was shown and how long was waited before is remembered.
-/
import MultiCluster.Command.Program
import MultiCluster.Rest.Message
import Std.Async.DNS
import Std.Async.TCP
namespace MultiCluster

open Std.Async Std.Net

/-! ## Connections -/

/-- The addresses of a host. -/
def addressesOf : Host → Nat → IO (List SocketAddress)
  | .domain name, number => do
    let found ← (DNS.getAddrInfo (String.ofList name) (toString number)).block
    return found.toList.map fun
      | .v4 a => .v4 ⟨a, number.toUInt16⟩
      | .v6 a => .v6 ⟨a, number.toUInt16⟩
  | .v4 n, number =>
    return [.v4 ⟨.ofParts (n / 16777216).toUInt8 (n / 65536).toUInt8 (n / 256).toUInt8 n.toUInt8, number.toUInt16⟩]
  | .v6 ps, number =>
    match ps.map Nat.toUInt16 with
    | [a, b, c, d, e, f, g, h] => return [.v6 ⟨.ofParts a b c d e f g h, number.toUInt16⟩]
    | _ => return []

/-- A connection to the first address that accepts one. -/
def connect? : List SocketAddress → IO (Option TCP.Socket.Client)
  | [] => return none
  | a :: r => do
    let socket ← TCP.Socket.Client.mk
    try
      (socket.connect a).block
      return some socket
    catch _ => connect? r

partial def receive (socket : TCP.Socket.Client) (got : ByteArray) : IO ByteArray := do
  match ← try (socket.recv? 65536).block catch _ => pure none with
  | some bytes => receive socket (got ++ bytes)
  | none => return got

/-- Makes a request. There is no way to a server that wants an encrypted connection. -/
def Rest.Request.perform (r : Rest.Request) : IO Rest.Reply := do
  if r.url.scheme != "http".toList then return .unreached
  try
    let host := r.url.host.getD (.domain [])
    match ← connect? (← addressesOf host (r.url.portNumber.getD 80)) with
    | none => return .unreached
    | some socket =>
      (socket.send r.message.toUTF8).block
      return .ofBytes (← receive socket .empty).toList
  catch _ => return .unreached

/-! ## Files and the terminal -/

/-- A code that may be given negated. -/
def plainCode (code : UInt32) : Nat := if code.toNat < Nat.pow 2 31 then code.toNat else Nat.pow 2 32 - code.toNat

/-- The code and the text of an error of the operating system. -/
def codeOf : IO.Error → Nat × String
  | .alreadyExists _ c d | .noFileOrDirectory _ c d | .invalidArgument _ c d | .permissionDenied _ c d
  | .resourceExhausted _ c d | .inappropriateType _ c d | .noSuchThing _ c d | .interrupted _ c d
  | .otherError c d | .resourceBusy c d | .resourceVanished c d | .unsupportedOperation c d | .hardwareFault c d
  | .unsatisfiedConstraints c d | .illegalOperation c d | .protocolError c d | .timeExpired c d => (plainCode c, d)
  | .unexpectedEof => (0, "unexpected end of file")
  | .userError d => (0, d)

def readFaultOf (e : IO.Error) : ReadFault :=
  match codeOf e with
  | (2, _) => .missing
  | (20, _) => .notDirectory
  | (21, _) => .isDirectory
  | (36, _) => .nameTooLong
  | (n, d) => .other (d.capitalize ++ " (os error " ++ toString n ++ ")")

def readPath (path : String) : IO (Except ReadFault Bytes) := do
  if path.toList.contains '\x00' then return .error .nulInPath
  try return .ok (← IO.FS.readBinFile path).toList
  catch e => return .error (readFaultOf e)

/-- The paths that a run may read. -/
def Surroundings.paths (s : Surroundings) : List String :=
  match Invocation.parse s.environment s.words with
  | .error _ => []
  | .ok i =>
    let sources : AnswerSources := match i.command with
      | some (.install r) => r.sources
      | some (.upgrade r) => r.sources
      | _ => {}
    (i.config.or (s.home.map Config.defaultPath)).toList ++ sources.answers.toList ++ sources.values.toList

partial def readLine (input : IO.FS.Stream) (line : ByteArray) : IO ByteArray := do
  let b ← input.read 1
  if b.isEmpty then return line
  else if b.toList = [10] then return line ++ b
  else readLine input (line ++ b)

/-! ## The run -/

/-- How far a run has come. -/
structure Progress where
  replies : List Rest.Reply := []
  input : Bytes := []
  inputEnded : Bool := false
  /-- Events that were seen to. -/
  events : Nat := 0
  /-- Characters that were shown at the terminal. -/
  shown : Nat := 0
  /-- Characters that were written. -/
  written : Nat := 0

/-- A line that is no text, so that a run stops at the prompt where it is read. -/
def unreadable : Bytes := [255, 10]

def waitFor (time : Duration) : IO Unit := IO.sleep (time.total / 1000000).toUInt32

/-- Waits as long as events ask for, up to a request and including it; how many events these are. -/
def follow (seen : Nat) : List Event → IO (Nat × Option Rest.Request)
  | [] => return (seen, none)
  | .pause time :: r => do
    waitFor time
    follow (seen + 1) r
  | .request request _ :: _ => return (seen + 1, some request)

/-- Writes what a run has added. -/
def report (r : RunResult) (p : Progress) : IO Progress := do
  IO.eprint (String.ofList (r.shown.toList.drop p.shown))
  IO.print (String.ofList (r.output.toList.drop p.written))
  (← IO.getStdout).flush
  return { p with shown := r.shown.length, written := r.output.length }

partial def advance (s : Surroundings) (p : Progress) : IO RunResult := do
  let input := if p.inputEnded then p.input else p.input ++ unreadable
  let result := Program.run { s with input } { replies := p.replies, spent := .unreached }
  let p ← report result p
  let (events, request) ← follow p.events (result.events.drop p.events)
  match request with
  | some request =>
    let reply ← request.perform
    advance s { p with replies := p.replies ++ [reply], events }
  | none =>
    if !p.inputEnded && result.unread.isEmpty then
      let line ← readLine (← IO.getStdin) .empty
      advance s { p with
        input := p.input ++ line.toList
        inputEnded := line.toList.getLast? != some 10
        events }
    else return result

def environment : IO (Dict String) := do
  let found ← (Invocation.globals.filterMap fun g => g.variableName).filterMapM fun name => do
    return (← IO.getEnv name).map fun value => (name, value)
  return Dict.ofList found

end MultiCluster

open MultiCluster in
def main (words : List String) : IO UInt32 := do
  let s : Surroundings := {
    files := ⟨fun _ => .error .missing⟩, home := ← IO.getEnv "HOME", environment := ← environment, words }
  let contents ← s.paths.mapM fun path => return (path, ← readPath path)
  let result ← advance { s with files := ⟨fun path => (contents.lookup path).getD (.error .missing)⟩ } {}
  match result.complaint with
  | some (.failure f) => IO.eprintln ("Error: " ++ f.message)
  | some (.usage .displayVersion) => pure ()
  | some (.usage .displayHelp) => IO.println "Usage: mcapp [OPTIONS] [COMMAND]"
  | some (.usage _) => IO.eprintln "error: the command line cannot be read\n\nUsage: mcapp [OPTIONS] [COMMAND]"
  | none => pure ()
  return result.exitCode.toUInt32
