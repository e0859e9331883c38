/-
What makes a command fail.
-/
import MultiCluster.Client.Fault
namespace MultiCluster

inductive CommandFault where
  /-- The server cannot be reached. -/
  | connection (detail : String)
  | config (detail : String)
  | command (detail : String)
  /-- The output cannot be put into its format. -/
  | format (detail : String)
  | invalidArgument (detail : String)
  | api (fault : Fault)
  | interrupted
  /-- Reading or writing failed; the text is the system's. -/
  | io (cause : String)
  deriving DecidableEq

namespace CommandFault

def message : CommandFault → String
  | connection detail => "connection error: " ++ detail
  | config detail => "configuration error: " ++ detail
  | command detail => "command error: " ++ detail
  | format detail => "format error: " ++ detail
  | invalidArgument detail => "invalid argument: " ++ detail
  | api fault => fault.message
  | interrupted => "interrupted"
  | io cause => "IO error: " ++ cause

/-- The text of the fault underneath, where there is one. -/
def source? : CommandFault → Option String
  | api fault => some fault.message
  | io cause => some cause
  | _ => none

end CommandFault

end MultiCluster
