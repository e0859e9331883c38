/-
The configuration: a file, the default one in the home directory unless another is named, and over it
what the command line and the environment give.
-/
import MultiCluster.Command.Fault
import MultiCluster.Files
import MultiCluster.Toml.Document
namespace MultiCluster

structure Config where
  serverUrl : String := ""
  token : Option String := none
  /-- The current project, the target of installs that name none. -/
  project : Option String := none
  /-- Seconds that a request may take. -/
  timeout : Nat := 30
  deriving DecidableEq

namespace Config

/-! ## Reading -/

def text? : Toml.Value → Option String
  | .text s => some s
  | _ => none

/-- A natural number of 64 bits. -/
def natural? : Toml.Value → Option Nat
  | .integer n => if 0 ≤ n ∧ n < Int.pow 2 64 then some n.toNat else none
  | _ => none

/-- An entry that may be left out. -/
def entry {α : Type} (key : String) (absent : α) (read : Toml.Value → Option α) (es : Toml.Value.Entries) :
    Option α :=
  match Dict.find key es with
  | none => some absent
  | some v => read v

/-- Entries other than those of a configuration do not count. -/
def ofEntries? (es : Toml.Value.Entries) : Option Config := do
  return {
    serverUrl := ← entry "server_url" "" text? es
    token := ← entry "token" none (fun v => (text? v).map some) es
    project := ← entry "project" none (fun v => (text? v).map some) es
    timeout := ← entry "timeout_secs" 30 natural? es }

def parse (text : String) : Except CommandFault Config :=
  match (Toml.read? text).bind ofEntries? with
  | some c => .ok c
  | none => .error (.config "invalid TOML")

def fromFile (files : Files) (path : String) : Except CommandFault Config :=
  match files.readText path with
  | .ok text => parse text
  | .error e => .error (.config ("failed to read config file '" ++ path ++ "': " ++ e.message))

/-- Where the file lies if no other is named. -/
def defaultPath (home : String) : String := home ++ "/.mcapp/config.toml"

/-- The configuration of the named file, which has to be there, or of the default one, which need
not. -/
def load (files : Files) (home : Option String) : Option String → Except CommandFault Config
  | some path => fromFile files path
  | none =>
    match home with
    | some h => if files.contains (defaultPath h) then fromFile files (defaultPath h) else .ok {}
    | none => .ok {}

/-! ## Overriding and checking -/

/-- What is given on the command line stands over what the file says. -/
def override (c : Config) (server token project : Option String) : Config :=
  { c with
    serverUrl := server.getD c.serverUrl
    token := token.or c.token
    project := project.or c.project }

def validate (c : Config) : Except CommandFault Unit :=
  if c.serverUrl.isEmpty then
    .error (.config "server URL is not set, use --server or server_url in the config file")
  else if (Text.dropPrefix? "http://".toList c.serverUrl.toList).isNone ∧
      (Text.dropPrefix? "https://".toList c.serverUrl.toList).isNone then
    .error (.config ("invalid server URL: " ++ c.serverUrl ++ ", must start with http:// or https://"))
  else if c.timeout = 0 then .error (.config "timeout_secs must be greater than 0")
  else .ok ()

/-- The current project, if one is set. -/
def currentProject (c : Config) : Option String := c.project.filter fun p => !p.isEmpty

end Config

end MultiCluster
