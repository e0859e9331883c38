/-
What can go wrong between the tool and the management API, and in reading what it holds.
-/
import MultiCluster.Record.Types
import MultiCluster.Time.Instant
import MultiCluster.Version.Semantic
namespace MultiCluster

inductive Fault where
  /-- No record of the kind has that name or ID. -/
  | notFound (kind : Kind) (reference : String)
  /-- Several records of the kind have that name; these are their IDs. -/
  | ambiguous (kind : Kind) (name : String) (ids : List String)
  /-- The template does not offer the version. -/
  | invalidVersion (version template : String)
  /-- The app did not become active in time. -/
  | timeout
  /-- The app went into an error state. -/
  | remoteFailure (message : String)
  /-- The exchange with the server failed. -/
  | transport (message : String)
  | invalidTimestamp (text : String) (cause : Instant.Fault)
  | badVersion (text : String) (cause : Version.Fault)
  /-- What the server sent is not the record that was asked for. -/
  | decode
  deriving DecidableEq

namespace Fault

def message : Fault → String
  | notFound kind reference => "not found: no " ++ kind.name ++ " matches '" ++ reference ++ "'"
  | ambiguous kind name ids =>
    "multiple resources of type " ++ kind.name ++ " found for name '" ++ name ++ "': " ++ Text.commaList ", " ids
  | invalidVersion version template =>
    "version " ++ version ++ " for template " ++ template ++ " is invalid, run 'mcapp show-template " ++
      template ++ "' for a list of versions"
  | timeout =>
    "timed out waiting for app to be active, the app could still be installing. Run 'mcapp ls' to verify"
  | remoteFailure message => message
  | transport message => "transport error: " ++ message
  | invalidTimestamp text cause => "invalid timestamp '" ++ text ++ "': " ++ cause.message
  | badVersion text cause => "invalid version '" ++ text ++ "': " ++ cause.message
  | decode => "decode error"

def isNotFound : Fault → Bool
  | notFound .. => true
  | _ => false

end Fault

end MultiCluster
