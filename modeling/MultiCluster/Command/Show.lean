/-
The commands that show something and change nothing.
-/
import MultiCluster.Command.Console
import MultiCluster.Directory
import MultiCluster.Record.Wire
namespace MultiCluster.Console

variable {σ : Type} [Client σ]

/-! ## Apps -/

def findApp (reference : String) : Attempt CommandFault (Console σ) App := remote (Client.lookup .app reference ∅)

/-- The row of an app in a full listing. -/
def appRow (d : Directory) (a : App) : Attempt Fault (Session σ) AppRow := do
  let version ← if a.templateVersionId.isEmpty then pure "" else Session.versionOf a.templateVersionId
  return ⟨a.id, a.name, a.state, version, d.readableNames a.targets⟩

def appRows (d : Directory) : List App → Attempt Fault (Session σ) (List AppRow)
  | [] => return []
  | a :: r => do
    let row ← appRow d a
    return row :: (← appRows d r)

/-- A quiet listing needs the apps alone. -/
def quietRow (a : App) : AppRow := ⟨a.id, a.name, a.state, "", []⟩

def listApps (quiet : Bool) : Attempt Fault (Session σ) (List AppRow) := do
  let apps ← Client.listAll .app ∅
  let apps : List App := apps
  if quiet then return apps.map quietRow
  else
    let d ← Directory.load
    appRows d apps

def ls (format : Format) (quiet : Bool) : Attempt CommandFault (Console σ) Unit := do
  print format (.apps (← remote (listApps quiet)) quiet)

/-! ## Revisions and versions -/

/-- The link of that name, without which the command cannot go on. -/
def link (links : Dict String) (name owner : String) : Attempt CommandFault (Console σ) String :=
  match links.get? name with
  | some url => return url
  | none => Attempt.fail (.command (owner ++ " has no '" ++ name ++ "' link"))

/-- The revisions of an app, oldest first. -/
def revisionsOf (a : App) : Attempt CommandFault (Console σ) (List RevisionEntry) := do
  let url ← link a.links "revisions" ("app '" ++ a.name ++ "'")
  let revisions ← remote (do
    let first ← Client.follow (Page.ofTree? (Kind.ofTree? .revision)) url
    Client.drain .revision first)
  judged (sortRevisions revisions a.status.revisionId)

/-- The versions that the template of an app offers, lowest first. -/
def versionsOf (a : App) : Attempt CommandFault (Console σ) (List VersionEntry) := do
  let current : TemplateVersion ← remote (Client.byId .templateVersion a.templateVersionId)
  let url ← link current.links "template" ("template version '" ++ current.id ++ "'")
  let template ← remote (Client.follow (Kind.ofTree? .template) url)
  let template : Template := template
  judged (sortVersions template.versionLinks.keys current.version)

def showApp (format : Format) (reference : String) : Attempt CommandFault (Console σ) Unit := do
  let a ← findApp reference
  let revisions ← revisionsOf a
  let versions ← versionsOf a
  print format (.overview revisions versions)

/-! ## Templates -/

/-- What restricts a listing to one catalog. -/
def catalogFilter : Option String → Attempt CommandFault (Console σ) (Dict String)
  | none => return ∅
  | some reference => do
    let catalog : Catalog ← remote (Client.lookup .catalog reference ∅)
    return Dict.empty.insert "catalogId" catalog.id

def templateRow (t : Template) : TemplateRow := ⟨t.id, t.name, Text.commaList "," t.categories⟩

/-- Templates that belong to no catalog are not listed. -/
def listTemplates (format : Format) (catalog : Option String) : Attempt CommandFault (Console σ) Unit := do
  let filters ← catalogFilter catalog
  let templates ← remote (Client.listAll .template filters)
  let templates : List Template := templates
  print format (.templates ((templates.filter fun t => !t.catalogId.isEmpty).map templateRow))

def showTemplate (format : Format) (reference : String) : Attempt CommandFault (Console σ) Unit := do
  let t : Template ← remote (Client.lookup .template reference ∅)
  print format (.versions (← judged (sortVersions t.versionLinks.keys t.defaultVersion)))

end MultiCluster.Console
