/-
The changes of an app's life: install, upgrade and rollback.
-/
import MultiCluster.Answers.Scoped
import MultiCluster.Lifecycle.Poll
import MultiCluster.Lifecycle.Selection
import MultiCluster.Record.Wire
namespace MultiCluster.App

variable {σ : Type} [Client σ]

def targetsOf (projectIds : List String) : List Target := projectIds.map fun id => { projectId := id }

/-- Creates the app and waits until it is installed. -/
def install (app : App) (policy : PollPolicy) : Attempt Fault σ App := do
  let created : App ← Client.create .app app
  waitForInstall created.id policy

/-- Refuses a version that the template behind the template version does not offer. A template version
without a link to its template is not checked. -/
def checkVersion (current : TemplateVersion) (version : String) : Attempt Fault (Session σ) Unit :=
  match current.links.get? "template" with
  | none => return ()
  | some link => do
    let template ← Client.follow (Kind.ofTree? .template) link
    let template : Template := template
    if template.versionLinks.contains version then return ()
    else Attempt.fail (.invalidVersion version template.name)

/-- Moves the app to a version, with the given answers in place of its own and, if there are any
specifiers, with their targets in place of its own. -/
def upgrade (app : App) (answers : FlatAnswers) (version : String) (specifiers : List String) :
    Attempt Fault (Session σ) App := do
  let answers ← answers.toAnswers
  let current : TemplateVersion ← Client.byId .templateVersion app.templateVersionId
  checkVersion current version
  let projectIds ← Session.resolveTargets specifiers
  Client.update .app
    { app with
      answers
      templateVersionId := TemplateVersion.replaceVersion current.id current.version version
      targets := if projectIds.isEmpty then app.targets else targetsOf projectIds }

/-- Takes the app back to a revision. -/
def rollback (app : App) (revisionId : String) : Attempt Fault σ Unit :=
  Client.action .app app "rollback" (Json.ofMembers [("revisionId", .text revisionId)])

end MultiCluster.App
