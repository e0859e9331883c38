/-
Running a command line: its configuration is settled, then its command is run; without a command apps
are listed.
-/
import MultiCluster.Command.Change
import MultiCluster.Config
namespace MultiCluster

/-- Runs a command. -/
def Command.run {σ : Type} [Client σ] (files : Files) (config : Config) (format : Format) :
    Command → Attempt CommandFault (Console σ) Unit
  | .ls quiet => Console.ls format quiet
  | .delete apps => Console.delete format apps
  | .install r => Console.install files config.currentProject format r
  | .upgrade r => Console.upgrade files format r
  | .rollback r => Console.rollback format r
  | .listTemplates catalog => Console.listTemplates format catalog
  | .showTemplate template => Console.showTemplate format template
  | .showApp app => Console.showApp format app

namespace Invocation

/-- The configuration in force, which has to be valid. -/
def resolveConfig (files : Files) (home : Option String) (i : Invocation) : Except CommandFault Config := do
  let c := (← Config.load files home i.config).override i.server i.token i.project
  c.validate
  return c

/-- Runs what is asked for, on a session that remembers nothing yet. -/
def run {σ : Type} [Client σ] (files : Files) (config : Config) (i : Invocation) :
    Attempt CommandFault (Console σ) Unit := do
  Attempt.modify fun c => { c with session := c.session.renew }
  (i.command.getD (.ls false)).run files config i.format

end Invocation

end MultiCluster
