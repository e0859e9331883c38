/-
The program as a whole: from a command line, an environment, files and what is typed to what is
written and the exit code, while the server replies from a script. Since every request and every wait
on the way is noted, a run can be carried on from where the replies, or the lines typed, were not
enough.
-/
import MultiCluster.Command.Run
import MultiCluster.Rest.Client
namespace MultiCluster

/-- Why a program ends without success. -/
inductive Complaint where
  /-- The command line cannot be read, or asks for help or the version. -/
  | usage (fault : UsageFault)
  | failure (fault : CommandFault)
  deriving DecidableEq

/-- What a run leaves behind. -/
structure RunResult where
  output : String := ""
  /-- What was shown at the terminal. -/
  shown : String := ""
  complaint : Option Complaint := none
  events : List Event := []
  /-- What was typed and not read. -/
  unread : Bytes := []

namespace RunResult

def exitCode (r : RunResult) : Nat :=
  match r.complaint with
  | none => 0
  | some (.usage f) => f.exitCode
  | some (.failure _) => 1

/-- The requests that reached the server. -/
def requests (r : RunResult) : List Rest.Request := Event.requests r.events

end RunResult

/-- What a program finds when it starts. -/
structure Surroundings where
  files : Files
  home : Option String := none
  environment : Dict String := ∅
  /-- The words behind the name of the program. -/
  words : List String := []
  input : Bytes := []

namespace Program

def version : String := "mcapp 0.1.0\n"

def run (s : Surroundings) (server : Rest.Server) : RunResult :=
  match Invocation.parse s.environment s.words with
  | .error f =>
    { output := if f = .displayVersion then version else "", complaint := some (.usage f), unread := s.input }
  | .ok i =>
    match i.resolveConfig s.files s.home with
    | .error f => { complaint := some (.failure f), unread := s.input }
    | .ok config =>
      let console : Console RestClient :=
        { session := { client := RestClient.connect config.serverUrl config.token server }
          terminal := { input := s.input } }
      let (r, c) := (i.run s.files config).run console
      { output := c.output
        shown := c.terminal.shown
        complaint := match r with
          | .ok () => none
          | .error f => some (.failure f)
        events := c.session.client.events
        unread := c.terminal.input }

end Program

end MultiCluster
