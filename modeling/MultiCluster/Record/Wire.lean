/-
Records on the wire. A record is written as an object; some fields are left out when they are empty.
A record is read from an object, where unknown members do not count and a field stands at most once,
or from an array of its fields in order; a field that is left out is empty, and `null` is no value
except where a field may be absent.
-/
import MultiCluster.Json.Tree
import MultiCluster.Record.Types
namespace MultiCluster.Wire

open Json (Tree)

/-! ## Writing -/

/-- A member that is always written. -/
def always (name : String) (j : Json) : Option (String × Json) := some (name, j)

/-- A text member that is left out when it is empty. -/
def unlessEmpty (name : String) (s : String) : Option (String × Json) :=
  if s.isEmpty then none else some (name, .text s)

def object (members : List (Option (String × Json))) : Json := Json.ofMembers (members.filterMap id)

def texts (l : List String) : Json := .array (l.map .text)

/-! ## Reading -/

/-- The member of a name, if there is one; a second one is refused. -/
def single? (name : String) (ms : List (Option String × Tree)) : Option (Option Tree) :=
  match ms.filter fun m => m.1 == some name with
  | [] => some none
  | [m] => some (some m.2)
  | _ => none

/-- The fields of a record, by name from an object or by position from an array. -/
def fields? (names : List String) : Tree → Option (List (Option Tree))
  | .object ms => if ms.any fun m => m.1.isNone then none else names.mapM fun n => single? n ms
  | .array xs =>
    if xs.length ≤ names.length then some (xs.map some ++ List.replicate (names.length - xs.length) none)
    else none
  | _ => none

/-- Reads a field that may be left out. -/
def orEmpty {α : Type} (empty : α) (read : Tree → Option α) : Option Tree → Option α
  | none => some empty
  | some t => read t

def text? : Tree → Option String
  | .text t => t
  | _ => none

def bool? : Tree → Option Bool
  | .bool b => some b
  | _ => none

def list? {α : Type} (read : Tree → Option α) : Tree → Option (List α)
  | .array xs => xs.mapM read
  | _ => none

/-- A named text. -/
def textMember? (m : Option String × Tree) : Option (String × String) := do return ((← m.1), (← text? m.2))

/-- A map of texts; of repeated names the last counts. -/
def dict? : Tree → Option (Dict String)
  | .object ms => (ms.mapM textMember?).map Dict.ofList
  | _ => none

/-- `null` stands for an absent value. -/
def optional? {α : Type} (read : Tree → Option α) : Tree → Option (Option α)
  | .null => some none
  | t => (read t).map some

abbrev textField : Option Tree → Option String := orEmpty "" text?
abbrev boolField : Option Tree → Option Bool := orEmpty false bool?
abbrev textsField : Option Tree → Option (List String) := orEmpty [] (list? text?)
abbrev dictField : Option Tree → Option (Dict String) := orEmpty ∅ dict?

end Wire

open Wire Json

/-! ## Records -/

def Pagination.toJson (p : Pagination) : Json :=
  object [p.next.map fun u => ("next", .text u), always "partial" (.bool p.isPartial)]

def Pagination.ofTree? (t : Tree) : Option Pagination := do
  match ← fields? ["next", "partial"] t with
  | [next, isPartial] =>
    return { next := ← orEmpty none (optional? text?) next, isPartial := ← boolField isPartial }
  | _ => none

def Page.toJson {α : Type} (write : α → Json) (p : Page α) : Json :=
  object [always "data" (.array (p.records.map write)), p.pagination.map fun q => ("pagination", q.toJson)]

def Page.ofTree? {α : Type} (read : Tree → Option α) (t : Tree) : Option (Page α) := do
  match ← fields? ["data", "pagination"] t with
  | [data, pagination] =>
    return {
      records := ← orEmpty [] (list? read) data
      pagination := ← orEmpty none (optional? Pagination.ofTree?) pagination }
  | _ => none

def Cluster.toJson (r : Cluster) : Json := object [always "id" (.text r.id), always "name" (.text r.name)]

def Cluster.ofTree? (t : Tree) : Option Cluster := do
  match ← fields? ["id", "name"] t with
  | [id, name] => return { id := ← textField id, name := ← textField name }
  | _ => none

def Project.toJson (r : Project) : Json :=
  object [always "id" (.text r.id), always "name" (.text r.name), always "clusterId" (.text r.clusterId)]

def Project.ofTree? (t : Tree) : Option Project := do
  match ← fields? ["id", "name", "clusterId"] t with
  | [id, name, clusterId] =>
    return { id := ← textField id, name := ← textField name, clusterId := ← textField clusterId }
  | _ => none

def Catalog.toJson (r : Catalog) : Json := object [always "id" (.text r.id), always "name" (.text r.name)]

def Catalog.ofTree? (t : Tree) : Option Catalog := do
  match ← fields? ["id", "name"] t with
  | [id, name] => return { id := ← textField id, name := ← textField name }
  | _ => none

def Template.toJson (r : Template) : Json :=
  object [always "id" (.text r.id), always "name" (.text r.name), always "catalogId" (.text r.catalogId),
    always "categories" (texts r.categories), always "defaultVersion" (.text r.defaultVersion),
    always "versionLinks" (Json.ofTexts r.versionLinks)]

def Template.ofTree? (t : Tree) : Option Template := do
  match ← fields? ["id", "name", "catalogId", "categories", "defaultVersion", "versionLinks"] t with
  | [id, name, catalogId, categories, defaultVersion, versionLinks] =>
    return {
      id := ← textField id
      name := ← textField name
      catalogId := ← textField catalogId
      categories := ← textsField categories
      defaultVersion := ← textField defaultVersion
      versionLinks := ← dictField versionLinks }
  | _ => none

def Question.toJson (r : Question) : Json :=
  object [always "variable" (.text r.key), always "label" (.text r.label),
    always "description" (.text r.description), always "type" (.text r.type),
    always "required" (.bool r.required), always "default" (.text r.default),
    always "options" (texts r.options)]

def Question.ofTree? (t : Tree) : Option Question := do
  match ← fields? ["variable", "label", "description", "type", "required", "default", "options"] t with
  | [key, label, description, type, required, default, options] =>
    return {
      key := ← textField key
      label := ← textField label
      description := ← textField description
      type := ← textField type
      required := ← boolField required
      default := ← textField default
      options := ← textsField options }
  | _ => none

def TemplateVersion.toJson (r : TemplateVersion) : Json :=
  object [always "id" (.text r.id), always "version" (.text r.version),
    always "links" (Json.ofTexts r.links), always "questions" (.array (r.questions.map Question.toJson))]

def TemplateVersion.ofTree? (t : Tree) : Option TemplateVersion := do
  match ← fields? ["id", "version", "links", "questions"] t with
  | [id, version, links, questions] =>
    return {
      id := ← textField id
      version := ← textField version
      links := ← dictField links
      questions := ← orEmpty [] (list? Question.ofTree?) questions }
  | _ => none

def Answer.toJson (r : Answer) : Json :=
  object [unlessEmpty "clusterId" r.clusterId, unlessEmpty "projectId" r.projectId,
    always "values" (Json.ofTexts r.values)]

def Answer.ofTree? (t : Tree) : Option Answer := do
  match ← fields? ["clusterId", "projectId", "values"] t with
  | [clusterId, projectId, values] =>
    return { clusterId := ← textField clusterId, projectId := ← textField projectId, values := ← dictField values }
  | _ => none

def Target.toJson (r : Target) : Json :=
  object [always "projectId" (.text r.projectId), unlessEmpty "state" r.state]

def Target.ofTree? (t : Tree) : Option Target := do
  match ← fields? ["projectId", "state"] t with
  | [projectId, state] => return { projectId := ← textField projectId, state := ← textField state }
  | _ => none

def Condition.toJson (r : Condition) : Json :=
  object [always "type" (.text r.type), always "status" (.text r.status), unlessEmpty "message" r.message]

def Condition.ofTree? (t : Tree) : Option Condition := do
  match ← fields? ["type", "status", "message"] t with
  | [type, status, message] =>
    return { type := ← textField type, status := ← textField status, message := ← textField message }
  | _ => none

def AppStatus.toJson (r : AppStatus) : Json :=
  object [always "revisionId" (.text r.revisionId),
    always "conditions" (.array (r.conditions.map Condition.toJson))]

def AppStatus.ofTree? (t : Tree) : Option AppStatus := do
  match ← fields? ["revisionId", "conditions"] t with
  | [revisionId, conditions] =>
    return { revisionId := ← textField revisionId, conditions := ← orEmpty [] (list? Condition.ofTree?) conditions }
  | _ => none

def App.toJson (r : App) : Json :=
  object [unlessEmpty "id" r.id, always "name" (.text r.name), unlessEmpty "state" r.state,
    always "templateVersionId" (.text r.templateVersionId),
    always "targets" (.array (r.targets.map Target.toJson)),
    always "answers" (.array (r.answers.map Answer.toJson)),
    always "status" r.status.toJson, unlessEmpty "transitioning" r.transitioning,
    unlessEmpty "transitioningMessage" r.transitioningMessage,
    if r.links.isEmpty then none else some ("links", Json.ofTexts r.links)]

def App.ofTree? (t : Tree) : Option App := do
  match ← fields? ["id", "name", "state", "templateVersionId", "targets", "answers", "status",
      "transitioning", "transitioningMessage", "links"] t with
  | [id, name, state, templateVersionId, targets, answers, status, transitioning, transitioningMessage, links] =>
    return {
      id := ← textField id
      name := ← textField name
      state := ← textField state
      templateVersionId := ← textField templateVersionId
      targets := ← orEmpty [] (list? Target.ofTree?) targets
      answers := ← orEmpty [] (list? Answer.ofTree?) answers
      status := ← orEmpty {} AppStatus.ofTree? status
      transitioning := ← textField transitioning
      transitioningMessage := ← textField transitioningMessage
      links := ← dictField links }
  | _ => none

def Revision.toJson (r : Revision) : Json :=
  object [always "id" (.text r.id), always "name" (.text r.name), always "created" (.text r.created)]

def Revision.ofTree? (t : Tree) : Option Revision := do
  match ← fields? ["id", "name", "created"] t with
  | [id, name, created] => return { id := ← textField id, name := ← textField name, created := ← textField created }
  | _ => none

namespace Kind

def toJson : (k : Kind) → k.Record → Json
  | .cluster, r => Cluster.toJson r
  | .project, r => Project.toJson r
  | .template, r => Template.toJson r
  | .templateVersion, r => TemplateVersion.toJson r
  | .app, r => App.toJson r
  | .revision, r => Revision.toJson r
  | .catalog, r => Catalog.toJson r

def ofTree? : (k : Kind) → Tree → Option k.Record
  | .cluster, t => Cluster.ofTree? t
  | .project, t => Project.ofTree? t
  | .template, t => Template.ofTree? t
  | .templateVersion, t => TemplateVersion.ofTree? t
  | .app, t => App.ofTree? t
  | .revision, t => Revision.ofTree? t
  | .catalog, t => Catalog.ofTree? t

/-- The text that a record's field of that wire name holds, if it is written and is a text. -/
def textAt (k : Kind) (r : k.Record) (field : String) : Option String :=
  ((k.toJson r).member? field).bind Json.text?

/-- Whether the record has the text that each filter asks for. -/
def matchesAll (k : Kind) (filters : Dict String) (r : k.Record) : Bool :=
  filters.toList.all fun f => k.textAt r f.1 == some f.2

end Kind

end MultiCluster
