/-
The records of the management API. A record belongs to one of seven kinds, and each kind has one
collection. Fields that the server leaves out are empty.
-/
import MultiCluster.Dict
namespace MultiCluster

/-- The kinds of records. -/
inductive Kind where
  | cluster
  | project
  | template
  | templateVersion
  | app
  | revision
  | catalog
  deriving DecidableEq, Repr

namespace Kind

/-- The schema name, as messages show it. -/
def name : Kind → String
  | cluster => "cluster"
  | project => "project"
  | template => "template"
  | templateVersion => "templateVersion"
  | app => "multiClusterApp"
  | revision => "multiClusterAppRevision"
  | catalog => "catalog"

/-- The path segment of the kind's collection. -/
def collection : Kind → String
  | cluster => "clusters"
  | project => "projects"
  | template => "templates"
  | templateVersion => "templateversions"
  | app => "multiclusterapps"
  | revision => "multiclusterapprevisions"
  | catalog => "catalogs"

def all : List Kind := [cluster, project, template, templateVersion, app, revision, catalog]

end Kind

/-- Where a listing goes on. -/
structure Pagination where
  next : Option String := none
  isPartial : Bool := false
  deriving DecidableEq

/-- One page of a listing. -/
structure Page (α : Type) where
  records : List α := []
  pagination : Option Pagination := none
  deriving DecidableEq

/-- The URL of the next page, also where the page is not partial. -/
def Page.next? {α : Type} (p : Page α) : Option String := p.pagination.bind (·.next)

/-- More pages remain. -/
def Page.isPartial {α : Type} (p : Page α) : Bool := p.pagination.any (·.isPartial)

structure Cluster where
  id : String := ""
  name : String := ""
  deriving DecidableEq, Inhabited

/-- A project; its ID begins with its cluster's ID and a colon. -/
structure Project where
  id : String := ""
  name : String := ""
  clusterId : String := ""
  deriving DecidableEq, Inhabited

structure Catalog where
  id : String := ""
  name : String := ""
  deriving DecidableEq, Inhabited

/-- What can be installed, in the versions of `versionLinks`. -/
structure Template where
  id : String := ""
  name : String := ""
  catalogId : String := ""
  categories : List String := []
  defaultVersion : String := ""
  versionLinks : Dict String := ∅
  deriving DecidableEq, Inhabited

/-- What a template asks before it is installed; `key` is the answer that the question fills. -/
structure Question where
  key : String := ""
  label : String := ""
  description : String := ""
  type : String := ""
  required : Bool := false
  default : String := ""
  options : List String := []
  deriving DecidableEq, Inhabited

/-- One version of a template; its ID ends in the version. -/
structure TemplateVersion where
  id : String := ""
  version : String := ""
  links : Dict String := ∅
  questions : List Question := []
  deriving DecidableEq, Inhabited

/-- Answer values of one scope: a project, a cluster, or neither for all. -/
structure Answer where
  clusterId : String := ""
  projectId : String := ""
  values : Dict String := ∅
  deriving DecidableEq, Inhabited

/-- A project that an app is deployed into. -/
structure Target where
  projectId : String := ""
  state : String := ""
  deriving DecidableEq, Inhabited

structure Condition where
  type : String := ""
  status : String := ""
  message : String := ""
  deriving DecidableEq, Inhabited

structure AppStatus where
  revisionId : String := ""
  conditions : List Condition := []
  deriving DecidableEq, Inhabited

/-- A multi-cluster app. -/
structure App where
  id : String := ""
  name : String := ""
  state : String := ""
  templateVersionId : String := ""
  targets : List Target := []
  answers : List Answer := []
  status : AppStatus := {}
  transitioning : String := ""
  transitioningMessage : String := ""
  links : Dict String := ∅
  deriving DecidableEq, Inhabited

/-- A snapshot of an app's configuration. -/
structure Revision where
  id : String := ""
  name : String := ""
  created : String := ""
  deriving DecidableEq, Inhabited

/-- The records of a kind. -/
abbrev Kind.Record : Kind → Type
  | .cluster => Cluster
  | .project => Project
  | .template => Template
  | .templateVersion => TemplateVersion
  | .app => App
  | .revision => Revision
  | .catalog => Catalog

namespace Kind

def id : (k : Kind) → k.Record → String
  | .cluster, r => Cluster.id r
  | .project, r => Project.id r
  | .template, r => Template.id r
  | .templateVersion, r => TemplateVersion.id r
  | .app, r => App.id r
  | .revision, r => Revision.id r
  | .catalog, r => Catalog.id r

/-- The record with another ID. -/
def withId : (k : Kind) → k.Record → String → k.Record
  | .cluster, r, id => { (r : Cluster) with id }
  | .project, r, id => { (r : Project) with id }
  | .template, r, id => { (r : Template) with id }
  | .templateVersion, r, id => { (r : TemplateVersion) with id }
  | .app, r, id => { (r : App) with id }
  | .revision, r, id => { (r : Revision) with id }
  | .catalog, r, id => { (r : Catalog) with id }

theorem id_withId (k : Kind) (r : k.Record) (i : String) : k.id (k.withId r i) = i := by
  cases k <;> rfl

end Kind

end MultiCluster
