/-
Template versions by their IDs: the one a version link leads to, and the one that differs from another
in its version.
-/
import MultiCluster.Client.Fault
namespace MultiCluster.TemplateVersion

/-- The ID at the end of a version link: what stands behind the last slash of the path. -/
def idOfLink (link : String) : String :=
  let path := link.toList.takeWhile fun c => c ≠ '?' && c ≠ '#'
  String.ofList ((Text.split '/' path).getLast (Text.split_ne_nil '/' path))

/-- The ID for `version`, or for the template's default version if that is empty or not given.
`reference` is how the user named the template. -/
def select (template : Template) (version : Option String) (reference : String) : Except Fault String :=
  let version := (version.filter fun v => !v.isEmpty).getD template.defaultVersion
  match template.versionLinks.get? version with
  | some link => .ok (idOfLink link)
  | none => .error (.invalidVersion version reference)

/-- The ID with another version at its end; an ID that does not end in the old version gains the new
one. -/
def replaceVersion (id old new : String) : String :=
  String.ofList (((Text.dropSuffix? old.toList id.toList).getD id.toList) ++ new.toList)

end MultiCluster.TemplateVersion
