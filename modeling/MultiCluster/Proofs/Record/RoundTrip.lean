/-
Records that are written and read back. A written object gives each field the member of its name, if it has
one (`fields?_object`), and each kind of field reads what is written of it. So every record comes back as it
was, whatever is left out of it in between (`Kind.ofTree?_toJson`), and so does a page of them.
-/
import MultiCluster.Proofs.Record.Wire
namespace MultiCluster

open Json (Tree)

namespace Json

theorem toTrees_eq_map (l : List Json) : toTrees l = l.map toTree := by
  induction l with
  | nil => rfl
  | cons x l ih => rw [toTrees, ih, List.map_cons]

theorem toTreeMembers_eq_map (ms : List (String × Json)) :
    toTreeMembers ms = ms.map fun e => (some e.1, e.2.toTree) := by
  induction ms with
  | nil => rfl
  | cons e ms ih => rw [toTreeMembers, ih, List.map_cons]

end Json

namespace Wire

/-! ## Fields of written objects -/

/-- Ascending names stand once each. -/
theorem filter_toTreeMembers {ms : List (String × Json)} (h : Ascending ms) (name : String) :
    ((Json.toTreeMembers ms).filter fun m => m.1 == some name) =
      ((Dict.find name ms).map fun j => (some name, j.toTree)).toList := by
  induction ms with
  | nil => rfl
  | cons e ms ih =>
    obtain ⟨k, x⟩ := e
    obtain ⟨hk, hms⟩ := List.pairwise_cons.1 h
    rw [Json.toTreeMembers, Dict.find]
    by_cases hname : k = name
    · subst hname
      have hnone : Dict.find k ms = none := by
        cases hfind : Dict.find k ms with
        | none => rfl
        | some j =>
          have hmem : (k, j) ∈ ms := (Dict.find_eq_some_iff hms).1 hfind
          exact absurd (hk _ hmem) (String.lt_irrefl k)
      rw [List.filter_cons_of_pos (by simp), ih hms, if_pos rfl, hnone]
      rfl
    · rw [List.filter_cons_of_neg (by simp [hname]), if_neg hname, ih hms]

theorem single?_toTreeMembers {ms : List (String × Json)} (h : Ascending ms) (name : String) :
    single? name (Json.toTreeMembers ms) = some ((Dict.find name ms).map Json.toTree) := by
  unfold single?
  rw [filter_toTreeMembers h]
  cases Dict.find name ms <;> rfl

/-- Each field of a written object is its member of that name. -/
theorem fields?_object (names : List String) (l : List (Option (String × Json))) :
    fields? names (object l).toTree = some (names.map fun n => ((object l).member? n).map Json.toTree) := by
  have hasc := (Dict.ofList (l.filterMap id)).ascending
  have hnamed : ((Json.toTreeMembers (Dict.ofList (l.filterMap id)).toList).any fun m => m.1.isNone) = false := by
    simp [Json.toTreeMembers_eq_map]
  show (if (Json.toTreeMembers _).any _ then none else names.mapM fun n => single? n (Json.toTreeMembers _)) = _
  rw [hnamed, if_neg Bool.false_ne_true]
  simp only [single?_toTreeMembers hasc]
  exact List.mapM_pure

/-! ## Each field reads what is written of it -/

theorem mapM_map_eq_some {α β : Type} {read : β → Option α} {write : α → β} (h : ∀ a, read (write a) = some a)
    (l : List α) : (l.map write).mapM read = some l := by
  induction l with
  | nil => rfl
  | cons a l ih => rw [List.map_cons, List.mapM_cons, h, ih]; rfl

@[simp] theorem textField_text (s : String) : textField (some (Json.text s).toTree) = some s := rfl

/-- An empty text is left out, and a text that is left out is empty. -/
@[simp] theorem textField_unlessEmpty (s : String) :
    textField (Option.map Json.toTree (if s = "" then none else some (.text s))) = some s := by
  split
  · rename_i h
    rw [h]
    rfl
  · rfl

@[simp] theorem boolField_bool (b : Bool) : boolField (some (Json.bool b).toTree) = some b := rfl

theorem list?_map {α : Type} {read : Tree → Option α} {write : α → Json} (h : ∀ a, read (write a).toTree = some a)
    (l : List α) : list? read (Json.array (l.map write)).toTree = some l := by
  show (Json.toTrees (l.map write)).mapM read = some l
  rw [Json.toTrees_eq_map, List.map_map]
  exact mapM_map_eq_some h l

@[simp] theorem textsField_texts (l : List String) : textsField (some (texts l).toTree) = some l :=
  list?_map (fun _ => rfl) l

@[simp] theorem dictField_ofTexts (d : Dict String) : dictField (some (Json.ofTexts d).toTree) = some d := by
  have hmembers : (Json.toTreeMembers (d.map Json.text).toList).mapM textMember? = some d.toList := by
    rw [Json.toTreeMembers_eq_map, Dict.map, List.map_map]
    have hread : ∀ e : String × String, textMember? (some e.1, (Json.text e.2).toTree) = some e := fun _ => rfl
    exact mapM_map_eq_some hread d.toList
  show ((Json.toTreeMembers (d.map Json.text).toList).mapM textMember?).map Dict.ofList = some d
  rw [hmembers, Option.map_some]
  refine congrArg some (Dict.ext_get? fun k => ?_)
  cases hk : d.get? k with
  | none =>
    refine Dict.get?_insertMany_of_not_mem fun e he heq => ?_
    rw [← heq, Dict.get?_eq_some_iff.2 he] at hk
    cases hk
  | some v =>
    refine Dict.get?_insertMany_of_mem (Dict.get?_eq_some_iff.1 hk) fun v' hv' => ?_
    rw [Dict.get?_eq_some_iff.2 hv'] at hk
    exact Option.some.inj hk

/-- A map without entries is left out, and a map that is left out has none. -/
@[simp] theorem dictField_unlessEmpty (d : Dict String) :
    dictField (Option.map Json.toTree (if d.isEmpty then none else some (Json.ofTexts d))) = some d := by
  split
  · rename_i h
    have hempty : d = ∅ := by
      obtain ⟨l, hl⟩ := d
      obtain rfl : l = [] := List.isEmpty_iff.1 h
      rfl
    rw [hempty]
    rfl
  · exact dictField_ofTexts d

theorem optional?_of_ne {α : Type} {read : Tree → Option α} {t : Tree} (h : t ≠ .null) :
    optional? read t = (read t).map some := by
  cases t with
  | null => exact absurd rfl h
  | _ => rfl

/-- An absent value is left out, and a value that is left out is absent. -/
theorem optionalField_map {α : Type} {read : Tree → Option α} {write : α → Json} (hnull : read .null = none)
    (h : ∀ a, read (write a).toTree = some a) (o : Option α) :
    orEmpty none (optional? read) (o.map (Json.toTree ∘ write)) = some o := by
  cases o with
  | none => rfl
  | some a =>
    have hne : (write a).toTree ≠ .null := fun he => by
      have := h a
      rw [he, hnull] at this
      cases this
    show optional? read (write a).toTree = some (some a)
    rw [optional?_of_ne hne, h]
    rfl

end Wire

open Wire

/-! ## Records -/

theorem Cluster.ofTree?_toJson (r : Cluster) : Cluster.ofTree? r.toJson.toTree = some r := by
  simp [Cluster.ofTree?, Cluster.toJson, fields?_object, member?_object]

theorem Project.ofTree?_toJson (r : Project) : Project.ofTree? r.toJson.toTree = some r := by
  simp [Project.ofTree?, Project.toJson, fields?_object, member?_object]

theorem Catalog.ofTree?_toJson (r : Catalog) : Catalog.ofTree? r.toJson.toTree = some r := by
  simp [Catalog.ofTree?, Catalog.toJson, fields?_object, member?_object]

theorem Revision.ofTree?_toJson (r : Revision) : Revision.ofTree? r.toJson.toTree = some r := by
  simp [Revision.ofTree?, Revision.toJson, fields?_object, member?_object]

theorem Template.ofTree?_toJson (r : Template) : Template.ofTree? r.toJson.toTree = some r := by
  simp [Template.ofTree?, Template.toJson, fields?_object, member?_object]

theorem Question.ofTree?_toJson (r : Question) : Question.ofTree? r.toJson.toTree = some r := by
  simp [Question.ofTree?, Question.toJson, fields?_object, member?_object]

theorem TemplateVersion.ofTree?_toJson (r : TemplateVersion) : TemplateVersion.ofTree? r.toJson.toTree = some r := by
  simp [TemplateVersion.ofTree?, TemplateVersion.toJson, fields?_object, member?_object, orEmpty,
    list?_map Question.ofTree?_toJson]

theorem Answer.ofTree?_toJson (r : Answer) : Answer.ofTree? r.toJson.toTree = some r := by
  simp [Answer.ofTree?, Answer.toJson, fields?_object, member?_object]

theorem Target.ofTree?_toJson (r : Target) : Target.ofTree? r.toJson.toTree = some r := by
  simp [Target.ofTree?, Target.toJson, fields?_object, member?_object]

theorem Condition.ofTree?_toJson (r : Condition) : Condition.ofTree? r.toJson.toTree = some r := by
  simp [Condition.ofTree?, Condition.toJson, fields?_object, member?_object]

theorem AppStatus.ofTree?_toJson (r : AppStatus) : AppStatus.ofTree? r.toJson.toTree = some r := by
  simp [AppStatus.ofTree?, AppStatus.toJson, fields?_object, member?_object, orEmpty,
    list?_map Condition.ofTree?_toJson]

theorem App.ofTree?_toJson (r : App) : App.ofTree? r.toJson.toTree = some r := by
  simp [App.ofTree?, App.toJson, fields?_object, member?_object, orEmpty, list?_map Target.ofTree?_toJson,
    list?_map Answer.ofTree?_toJson, AppStatus.ofTree?_toJson]

namespace Kind

/-- A record that is written and read back is the same in every field. -/
theorem ofTree?_toJson (kind : Kind) (r : kind.Record) : kind.ofTree? (kind.toJson r).toTree = some r := by
  cases kind with
  | cluster => exact Cluster.ofTree?_toJson r
  | project => exact Project.ofTree?_toJson r
  | template => exact Template.ofTree?_toJson r
  | templateVersion => exact TemplateVersion.ofTree?_toJson r
  | app => exact App.ofTree?_toJson r
  | revision => exact Revision.ofTree?_toJson r
  | catalog => exact Catalog.ofTree?_toJson r

end Kind

/-! ## Pages -/

theorem Pagination.ofTree?_toJson (p : Pagination) : Pagination.ofTree? p.toJson.toTree = some p := by
  have hnext : orEmpty none (optional? text?) (p.next.map (Json.toTree ∘ Json.text)) = some p.next :=
    optionalField_map rfl (fun _ => rfl) p.next
  simp [Pagination.ofTree?, Pagination.toJson, fields?_object, member?_object, hnext]

theorem Page.ofTree?_toJson {α : Type} {read : Tree → Option α} {write : α → Json}
    (h : ∀ a, read (write a).toTree = some a) (p : Page α) : Page.ofTree? read (p.toJson write).toTree = some p := by
  have hdata : orEmpty [] (list? read) (some (Json.array (p.records.map write)).toTree) = some p.records :=
    list?_map h p.records
  have hpagination : orEmpty none (optional? Pagination.ofTree?) (p.pagination.map (Json.toTree ∘ Pagination.toJson)) =
      some p.pagination := optionalField_map rfl Pagination.ofTree?_toJson p.pagination
  simp [Page.ofTree?, Page.toJson, fields?_object, member?_object, hdata, hpagination]

/-! ## Another ID -/

/-- Only the member `id` is left out when it is empty, so it is written with any other ID. -/
theorem App.member?_withId (r : App) {id : String} (h : id ≠ "") (name : String) :
    (App.toJson { r with id }).member? name = if name = "id" then some (.text id) else r.toJson.member? name := by
  by_cases hname : name = "id"
  · simp [App.toJson, member?_object, hname, h]
  · simp [App.toJson, member?_object, hname, Ne.symm hname]

/-- A record with another ID is written with another member `id`, and alike in all others. -/
theorem Kind.member?_withId (kind : Kind) (r : kind.Record) {id : String} (h : id ≠ "") (name : String) :
    (kind.toJson (kind.withId r id)).member? name =
      if name = "id" then some (.text id) else (kind.toJson r).member? name := by
  cases kind with
  | app => exact App.member?_withId r h name
  | cluster | project | template | templateVersion | revision | catalog =>
    by_cases hname : name = "id"
    · simp [toJson, withId, Cluster.toJson, Project.toJson, Template.toJson, TemplateVersion.toJson, Revision.toJson,
        Catalog.toJson, member?_object, hname]
    · simp [toJson, withId, Cluster.toJson, Project.toJson, Template.toJson, TemplateVersion.toJson, Revision.toJson,
        Catalog.toJson, member?_object, hname, Ne.symm hname]

end MultiCluster
