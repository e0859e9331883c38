/-
The commands that change apps.
-/
import MultiCluster.Command.Show
import MultiCluster.CommandLine.Invocation
import MultiCluster.Lifecycle.Change
namespace MultiCluster.Console

variable {σ : Type} [Client σ]

def done (format : Format) (text : String) : Attempt CommandFault (Console σ) Unit := print format (.message text)

/-- Deletes one app after the other; those before a failure stay deleted. -/
def delete (format : Format) : List String → Attempt CommandFault (Console σ) Unit
  | [] => return ()
  | reference :: r => do
    let a ← findApp reference
    remote (Client.delete .app a)
    done format ("Deleted " ++ a.name)
    delete format r

/-- The targets named, or the current project where none is named. -/
def installTargets (currentProject : Option String) (specifiers : List String) :
    Attempt CommandFault (Console σ) (List String) := do
  match ← remote (Session.resolveTargets specifiers), currentProject with
  | [], some project => return [project]
  | [], none =>
    Attempt.fail (.invalidArgument
      "no target given and no current project configured, use --target or --project")
  | ids, _ => return ids

/-- The app that an install creates. -/
def newApp (files : Files) (currentProject : Option String) (r : InstallRequest) :
    Attempt CommandFault (Console σ) App := do
  let template : Template ← remote (Client.lookup .template r.template ∅)
  let templateVersionId ← judged (TemplateVersion.select template r.version r.template)
  let templateVersion : TemplateVersion ← remote (Client.byId .templateVersion templateVersionId)
  let answers ← Attempt.ofExcept (AnswerSources.collect files ∅ r.sources)
  let answers ← interview (!r.noPrompt) templateVersion.questions answers
  let projectIds ← installTargets currentProject r.targets
  let answers ← remote answers.toAnswers
  return { name := r.name, templateVersionId, targets := App.targetsOf projectIds, answers }

/-- Creates an app and waits until it is installed. -/
def install (files : Files) (currentProject : Option String) (format : Format) (r : InstallRequest) :
    Attempt CommandFault (Console σ) Unit := do
  let a ← newApp files currentProject r
  let installed ← remote (App.install a { timeout := ⟨r.timeout, 0⟩ })
  done format ("Installed " ++ installed.name ++ " (" ++ installed.id ++ ")")

/-- Moves an app to another version. Its answers are kept but for those that are given. -/
def upgrade (files : Files) (format : Format) (r : UpgradeRequest) : Attempt CommandFault (Console σ) Unit := do
  let a ← findApp r.app
  if r.showVersions then print format (.versions (← versionsOf a))
  else match r.version with
    | none => Attempt.fail (.invalidArgument "a version is required, see --show-versions")
    | some version => do
      let answers ← Attempt.ofExcept (AnswerSources.collect files (FlatAnswers.ofAnswers a.answers) r.sources)
      let updated ← remote (App.upgrade a answers version r.targets)
      done format ("Upgraded " ++ updated.name ++ " to " ++ version)

/-- Takes an app back to a revision. -/
def rollback (format : Format) (r : RollbackRequest) : Attempt CommandFault (Console σ) Unit := do
  let a ← findApp r.app
  if r.showRevisions then print format (.revisions (← revisionsOf a))
  else match r.revision with
    | none => Attempt.fail (.invalidArgument "a revision is required, see --show-revisions")
    | some reference => do
      let revision : Revision ← remote (Client.lookup .revision reference ∅)
      remote (App.rollback a revision.id)
      done format ("Rolled back " ++ a.name ++ " to revision " ++ revision.name)

end MultiCluster.Console
