/-
Command lines on a client that is there already. A run of the program is one on a client that has just
been connected (`Program.run_eq_serve`); several command lines can be run on one client, each on a
session of its own.
-/
import MultiCluster.Command.Program
namespace MultiCluster

variable {σ : Type} [Client σ]

/-- How a command ended and what it left at its console. -/
def Console.result {σ : Type} (r : Except CommandFault Unit) (c : Console σ) : RunResult where
  output := c.output
  shown := c.terminal.shown
  complaint := match r with
    | .ok () => none
    | .error f => some (.failure f)
  unread := c.terminal.input

namespace Surroundings

/-- What a command line does on a client. Events are left to the client. -/
def serve (x : Surroundings) (client : σ) : RunResult × σ :=
  match Invocation.parse x.environment x.words with
  | .error f =>
    ({ output := if f = .displayVersion then Program.version else "", complaint := some (.usage f), unread := x.input },
      client)
  | .ok i =>
    match i.resolveConfig x.files x.home with
    | .error f => ({ complaint := some (.failure f), unread := x.input }, client)
    | .ok config =>
      let (r, c) := (i.run x.files config).run { session := { client }, terminal := { input := x.input } }
      (c.result r, c.session.client)

/-- Command lines one after the other on one client. -/
def serveAll : List Surroundings → σ → List RunResult × σ
  | [], client => ([], client)
  | x :: r, client =>
    let (o, client) := x.serve client
    let (os, client) := serveAll r client
    (o :: os, client)

end Surroundings

variable {x : Surroundings} {i : Invocation} {config : Config}

/-- A command line that can be read, with a valid configuration, runs its command. -/
theorem Surroundings.serve_of_ok (hparse : Invocation.parse x.environment x.words = .ok i)
    (hconfig : i.resolveConfig x.files x.home = .ok config) (client : σ) {r : Except CommandFault Unit} {c : Console σ}
    (hrun : (i.run x.files config).run { session := { client }, terminal := { input := x.input } } = (r, c)) :
    x.serve client = (c.result r, c.session.client) := by
  simp only [serve, hparse, hconfig, hrun]

/-- A program that gets as far as its command runs it on a client that was connected for it. -/
theorem Program.run_eq_serve (server : Rest.Server) (hparse : Invocation.parse x.environment x.words = .ok i)
    (hconfig : i.resolveConfig x.files x.home = .ok config) :
    Program.run x server =
      { (x.serve (RestClient.connect config.serverUrl config.token server)).1 with
        events := (x.serve (RestClient.connect config.serverUrl config.token server)).2.events } := by
  simp only [Program.run, Surroundings.serve, hparse, hconfig]
  rfl

end MultiCluster
