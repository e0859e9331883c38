/-
What commands print: listings and confirmations, as tables for people or as JSON for programs.
-/
import MultiCluster.Command.Fault
import MultiCluster.History
import MultiCluster.Json.Value
import MultiCluster.Report.Table
namespace MultiCluster

inductive Format where
  | table
  | json
  deriving DecidableEq, Repr

instance : Inhabited Format := ⟨.table⟩

/-- An app in a listing, its targets under readable names. -/
structure AppRow where
  id : String
  name : String
  state : String
  version : String
  targets : List String
  deriving DecidableEq

/-- A template in a listing. -/
structure TemplateRow where
  id : String
  name : String
  category : String
  deriving DecidableEq

inductive Report where
  /-- A quiet listing shows IDs alone. -/
  | apps (rows : List AppRow) (quiet : Bool)
  | templates (rows : List TemplateRow)
  | revisions (entries : List RevisionEntry)
  | versions (entries : List VersionEntry)
  | overview (revisions : List RevisionEntry) (versions : List VersionEntry)
  | message (text : String)

namespace Report

def marker (current : Bool) : String := if current then "*" else ""

/-! ## Tables -/

def ofApps (rows : List AppRow) : Table where
  headers := ["NAME", "STATE", "VERSION", "TARGET_PROJECTS"]
  rows := rows.map fun r => [r.name, r.state, r.version, Text.commaList "," r.targets]

def ofTemplates (rows : List TemplateRow) : Table where
  headers := ["ID", "NAME", "CATEGORY"]
  rows := rows.map fun r => [r.id, r.name, r.category]

def ofRevisions (entries : List RevisionEntry) : Table where
  headers := ["CURRENT", "REVISION", "CREATED"]
  rows := entries.map fun e => [marker e.current, e.name, e.created.display]

def ofVersions (entries : List VersionEntry) : Table where
  headers := ["CURRENT", "VERSION"]
  rows := entries.map fun e => [marker e.current, e.version]

/-- One ID a line. -/
def idLines (rows : List AppRow) : String := String.join (rows.map fun r => r.id ++ "\n")

def toTable : Report → String
  | apps rows true => idLines rows
  | apps rows false => (ofApps rows).render
  | templates rows => (ofTemplates rows).render
  | revisions es => (ofRevisions es).render
  | versions es => (ofVersions es).render
  | overview rs vs => (ofRevisions rs).render ++ "\n" ++ (ofVersions vs).render
  | message text => "✓ " ++ text ++ "\n"

/-! ## JSON -/

def appJson (r : AppRow) : Json :=
  .object [("id", .text r.id), ("name", .text r.name), ("state", .text r.state), ("version", .text r.version),
    ("targets", .array (r.targets.map .text))]

def templateJson (r : TemplateRow) : Json :=
  .object [("id", .text r.id), ("name", .text r.name), ("category", .text r.category)]

def revisionJson (e : RevisionEntry) : Json :=
  .object [("name", .text e.name), ("created", .text e.created.render), ("current", .bool e.current)]

def versionJson (e : VersionEntry) : Json := .object [("version", .text e.version), ("current", .bool e.current)]

/-- The value of a report; its members stand in the order of the table's columns. -/
def toJson : Report → Json
  | apps rows _ => .object [("apps", .array (rows.map appJson))]
  | templates rows => .object [("templates", .array (rows.map templateJson))]
  | revisions es => .object [("revisions", .array (es.map revisionJson))]
  | versions es => .object [("versions", .array (es.map versionJson))]
  | overview rs vs => .object [("revisions", .array (rs.map revisionJson)), ("versions", .array (vs.map versionJson))]
  | message text => .object [("message", .text text)]

/-! ## Output -/

def render : Format → Report → String
  | .table, r => r.toTable
  | .json, r => r.toJson.pretty ++ "\n"

/-- What a write says that finds no more room. -/
def noRoom : String := "failed to write whole buffer"

/-- A text, written where there is room for that many bytes. -/
def fitting (room : Nat) (text : String) : Except CommandFault String :=
  if text.utf8ByteSize ≤ room then .ok text else .error (.io noRoom)

/-- The report, written where there is room for that many bytes. -/
def renderWithin (format : Format) (room : Nat) (r : Report) : Except CommandFault String :=
  match format with
  | .json =>
    if r.toJson.pretty.utf8ByteSize ≤ room then fitting room (render .json r)
    else .error (.format ("JSON serialization failed: " ++ noRoom))
  | .table => fitting room (render .table r)

end Report

end MultiCluster
