/-
Members that may be left out. A record knows its fields by their names, and a field that is left out is empty.
So nothing is lost with a member of another name, nor with one that holds the empty value of its field,
wherever in a record it lies: in the record itself, in the records of a list, or in one that is the value of a
member (`Thinned`). What is read of a tree is read of every thinned form of it (`wire_reads_back`).
-/
import MultiCluster.Proofs.Record.RoundTrip
import Mathlib.Data.List.Forall2
import Mathlib.Data.List.Nodup
namespace MultiCluster

open Json (Tree)

namespace Wire

/-! ## Fields and what may be left out -/

/-- A field of a record: the name of its member, the values that say as much as no member at all, and what
may become of a value when members inside it are left out. -/
structure RecordField where
  name : String
  Empty : Tree → Prop
  Thins : Tree → Tree → Prop

/-- Some members are left out of an object with these fields: ones of other names and ones that are empty.
Of those that are kept some are thinned. -/
inductive ThinnedMembers (fields : List RecordField) : List (Option String × Tree) → List (Option String × Tree) → Prop
  | nil : ThinnedMembers fields [] []
  | keep {m ms ms'} : ThinnedMembers fields ms ms' → ThinnedMembers fields (m :: ms) (m :: ms')
  | thin {f v v' ms ms'} : f ∈ fields → f.Thins v v' → ThinnedMembers fields ms ms' →
      ThinnedMembers fields ((some f.name, v) :: ms) ((some f.name, v') :: ms')
  | unknown {name v ms ms'} : name ∉ fields.map RecordField.name → ThinnedMembers fields ms ms' →
      ThinnedMembers fields ((some name, v) :: ms) ms'
  | empty {f v ms ms'} : f ∈ fields → f.Empty v → ThinnedMembers fields ms ms' →
      ThinnedMembers fields ((some f.name, v) :: ms) ms'

/-- The same for an array of the fields in order, of which only the last ones can be left out. -/
inductive ThinnedItems : List RecordField → List Tree → List Tree → Prop
  | nil {fields} : ThinnedItems fields [] []
  | keep {f fields x xs xs'} : ThinnedItems fields xs xs' → ThinnedItems (f :: fields) (x :: xs) (x :: xs')
  | thin {f fields x x' xs xs'} : f.Thins x x' → ThinnedItems fields xs xs' →
      ThinnedItems (f :: fields) (x :: xs) (x' :: xs')
  | empty {f fields x xs} : f.Empty x → ThinnedItems fields xs [] → ThinnedItems (f :: fields) (x :: xs) []

/-- The second is the first, a record with these fields, with some members left out that say nothing. -/
inductive Thinned (fields : List RecordField) : Tree → Tree → Prop
  | same {t} : Thinned fields t t
  | object {ms ms'} : ThinnedMembers fields ms ms' → Thinned fields (.object ms) (.object ms')
  | array {xs xs'} : ThinnedItems fields xs xs' → Thinned fields (.array xs) (.array xs')

namespace RecordField

/-- A value that has no fields inside. Of a map of texts, too, all members stay. -/
def plain (name : String) (empty : Tree) : RecordField := ⟨name, (· = empty), Eq⟩

def text (name : String) : RecordField := plain name (.text (some ""))

def flag (name : String) : RecordField := plain name (.bool false)

def texts (name : String) : RecordField := plain name (.array [])

def dict (name : String) : RecordField := plain name (.object [])

/-- A list of records with these fields. -/
def list (name : String) (fields : List RecordField) : RecordField :=
  ⟨name, (· = .array []), fun t t' => ∃ xs xs', t = .array xs ∧ t' = .array xs' ∧ List.Forall₂ (Thinned fields) xs xs'⟩

/-- A record with these fields, or none. -/
def optional (name : String) (fields : List RecordField) : RecordField := ⟨name, (· = .null), Thinned fields⟩

/-- A record with these fields. It is empty if nothing of it need stay. -/
def record (name : String) (fields : List RecordField) : RecordField :=
  ⟨name, fun t => Thinned fields t (.object []) ∨ Thinned fields t (.array []), Thinned fields⟩

/-- What becomes of the field where its record is thinned. -/
inductive Follows (f : RecordField) : Option Tree → Option Tree → Prop
  | same {o} : f.Follows o o
  | thin {v v'} : f.Thins v v' → f.Follows (some v) (some v')
  | empty {v} : f.Empty v → f.Follows (some v) none

/-- Thinning does not change what is read of the field. -/
structure ReadBy {α : Type} (f : RecordField) (read : Option Tree → Option α) : Prop where
  thin : ∀ {v v' a}, f.Thins v v' → read (some v) = some a → read (some v') = some a
  empty : ∀ {v a}, f.Empty v → read (some v) = some a → read none = some a

end RecordField

/-- What becomes of all fields of a record that is thinned. -/
inductive FollowAll : List RecordField → List (Option Tree) → List (Option Tree) → Prop
  | nil : FollowAll [] [] []
  | cons {f fields o o' l l'} : f.Follows o o' → FollowAll fields l l' → FollowAll (f :: fields) (o :: l) (o' :: l')

/-! ## Fields of thinned records -/

section Members

variable {fields : List RecordField} {f : RecordField} {ms ms' : List (Option String × Tree)} {m : Option String × Tree}
  {name : String} {o : Option Tree}

/-- The names that stay are names that were there, in their order. -/
theorem ThinnedMembers.names (h : ThinnedMembers fields ms ms') : (ms'.map Prod.fst).Sublist (ms.map Prod.fst) := by
  induction h with
  | nil => exact .slnil
  | keep _ ih => exact ih.cons_cons _
  | thin _ _ _ ih => exact ih.cons_cons _
  | unknown _ _ ih => exact ih.cons _
  | empty _ _ _ ih => exact ih.cons _

theorem single?_cons_of_ne (h : m.1 ≠ some name) : single? name (m :: ms) = single? name ms := by
  unfold single?
  rw [List.filter_cons_of_neg (by simpa using h)]

/-- A member is read under its name if no other has that name. -/
theorem single?_cons_of_eq (h : m.1 = some name) :
    single? name (m :: ms) = some o ↔ o = some m.2 ∧ single? name ms = some none := by
  unfold single?
  rw [List.filter_cons_of_pos (by simpa using h)]
  generalize ms.filter (fun m => m.1 == some name) = named
  rcases named with _ | ⟨m', _ | ⟨m'', r⟩⟩
  · exact ⟨fun h => ⟨(Option.some.inj h).symm, rfl⟩, fun h => congrArg some h.1.symm⟩
  · exact ⟨fun h => (by cases h), fun h => (by cases h.2)⟩
  · exact ⟨fun h => (by cases h), fun h => (by cases h.2)⟩

theorem single?_eq_none_iff : single? name ms = some none ↔ some name ∉ ms.map Prod.fst := by
  induction ms with
  | nil => simp [single?]
  | cons m ms ih =>
    rw [List.map_cons, List.mem_cons, not_or, ← ih]
    by_cases h : m.1 = some name
    · rw [single?_cons_of_eq h]
      exact ⟨fun hm => (by cases hm.1), fun hm => absurd h.symm hm.1⟩
    · rw [single?_cons_of_ne h]
      exact (and_iff_right (Ne.symm h)).symm

theorem ThinnedMembers.single?_eq_none (h : ThinnedMembers fields ms ms') (hms : single? name ms = some none) :
    single? name ms' = some none :=
  single?_eq_none_iff.2 fun hmem => single?_eq_none_iff.1 hms (h.names.subset hmem)

/-- Each field of an object that is thinned is as before, or thinned, or left out for being empty. -/
theorem ThinnedMembers.single?_follows (h : ThinnedMembers fields ms ms') (hnames : (fields.map RecordField.name).Nodup)
    (hf : f ∈ fields) (ho : single? f.name ms = some o) : ∃ o', single? f.name ms' = some o' ∧ f.Follows o o' := by
  have hsame : ∀ {g}, g ∈ fields → g.name = f.name → g = f := fun hg => List.inj_on_of_nodup_map hnames hg hf
  induction h with
  | nil => exact ⟨o, ho, .same⟩
  | @keep m ms ms' hms ih =>
    by_cases hname : m.1 = some f.name
    · obtain ⟨rfl, hrest⟩ := (single?_cons_of_eq hname).1 ho
      exact ⟨some m.2, (single?_cons_of_eq hname).2 ⟨rfl, hms.single?_eq_none hrest⟩, .same⟩
    · rw [single?_cons_of_ne hname] at ho ⊢
      exact ih ho
  | @thin g v v' ms ms' hg hthins hms ih =>
    by_cases hname : g.name = f.name
    · obtain rfl := hsame hg hname
      obtain ⟨rfl, hrest⟩ := (single?_cons_of_eq rfl).1 ho
      exact ⟨some v', (single?_cons_of_eq rfl).2 ⟨rfl, hms.single?_eq_none hrest⟩, .thin hthins⟩
    · rw [single?_cons_of_ne (by simpa using hname)] at ho ⊢
      exact ih ho
  | @unknown name v ms ms' hname hms ih =>
    have hne : name ≠ f.name := fun he => hname (he ▸ List.mem_map_of_mem hf)
    rw [single?_cons_of_ne (by simpa using hne)] at ho
    exact ih ho
  | @empty g v ms ms' hg hempty hms ih =>
    by_cases hname : g.name = f.name
    · obtain rfl := hsame hg hname
      obtain ⟨rfl, hrest⟩ := (single?_cons_of_eq rfl).1 ho
      exact ⟨none, hms.single?_eq_none hrest, .empty hempty⟩
    · rw [single?_cons_of_ne (by simpa using hname)] at ho
      exact ih ho

end Members

section Fields

variable {fields : List RecordField} {t t' : Tree} {l : List (Option Tree)}

theorem length_fields? {names : List String} (h : fields? names t = some l) : l.length = names.length := by
  cases t with
  | object ms =>
    change (if ms.any fun m => m.1.isNone then none else _) = some l at h
    split at h
    · cases h
    · exact length_of_mapM h
  | array xs =>
    change (if xs.length ≤ names.length then some _ else none) = some l at h
    split at h
    · rename_i hlen
      cases h
      rw [List.length_append, List.length_map, List.length_replicate, Nat.add_sub_cancel' hlen]
    · cases h
  | _ => cases h

/-- Nothing becomes of a record that stays as it is. -/
theorem followAll_same (hl : l.length = fields.length) : FollowAll fields l l := by
  induction l generalizing fields with
  | nil =>
    obtain rfl := List.length_eq_zero_iff.1 hl.symm
    exact .nil
  | cons o l ih =>
    obtain ⟨f, fields, rfl⟩ := List.exists_cons_of_length_eq_add_one hl.symm
    exact .cons .same (ih (Nat.succ.inj hl))

theorem ThinnedMembers.followAll (hnames : (fields.map RecordField.name).Nodup) {ms ms' : List (Option String × Tree)}
    (h : ThinnedMembers fields ms ms') (hl : (fields.map RecordField.name).mapM (fun n => single? n ms) = some l) :
    ∃ l', (fields.map RecordField.name).mapM (fun n => single? n ms') = some l' ∧ FollowAll fields l l' := by
  -- each field is looked up in all members, so the induction is on some of the fields, all members staying
  have hsome : ∀ fs ⊆ fields, ∀ l, (fs.map RecordField.name).mapM (fun n => single? n ms) = some l →
      ∃ l', (fs.map RecordField.name).mapM (fun n => single? n ms') = some l' ∧ FollowAll fs l l' := by
    intro fs
    induction fs with
    | nil =>
      rintro - l hl
      cases hl
      exact ⟨[], rfl, .nil⟩
    | cons f fs ih =>
      intro hfs l hl
      obtain ⟨hf, hfs⟩ := List.cons_subset.1 hfs
      rw [List.map_cons] at hl ⊢
      obtain ⟨o, r, ho, hr, rfl⟩ := mapM_cons_eq_some hl
      obtain ⟨o', ho', hfollows⟩ := h.single?_follows hnames hf ho
      obtain ⟨r', hr', hall⟩ := ih hfs r hr
      refine ⟨o' :: r', ?_, .cons hfollows hall⟩
      rw [List.mapM_cons, ho', hr']
      rfl
  exact hsome fields (List.Subset.refl _) l hl

/-- The fields of an array that is thinned, those behind its end being left out. -/
theorem ThinnedItems.followAll {xs xs' : List Tree} (h : ThinnedItems fields xs xs')
    (hlen : xs.length ≤ fields.length) :
    xs'.length ≤ fields.length ∧ FollowAll fields (xs.map some ++ List.replicate (fields.length - xs.length) none)
      (xs'.map some ++ List.replicate (fields.length - xs'.length) none) := by
  induction h with
  | nil => exact ⟨Nat.zero_le _, followAll_same (by simp)⟩
  | keep _ ih =>
    obtain ⟨hlen', hall⟩ := ih (Nat.le_of_succ_le_succ hlen)
    refine ⟨Nat.succ_le_succ hlen', ?_⟩
    simp only [List.length_cons, Nat.add_sub_add_right]
    exact .cons .same hall
  | thin hthins _ ih =>
    obtain ⟨hlen', hall⟩ := ih (Nat.le_of_succ_le_succ hlen)
    refine ⟨Nat.succ_le_succ hlen', ?_⟩
    simp only [List.length_cons, Nat.add_sub_add_right]
    exact .cons (.thin hthins) hall
  | empty hempty _ ih =>
    obtain ⟨-, hall⟩ := ih (Nat.le_of_succ_le_succ hlen)
    refine ⟨Nat.zero_le _, ?_⟩
    simp only [List.length_cons, Nat.add_sub_add_right]
    exact .cons (.empty hempty) hall

theorem Thinned.fields? (hnames : (fields.map RecordField.name).Nodup) (h : Thinned fields t t')
    (hl : Wire.fields? (fields.map RecordField.name) t = some l) :
    ∃ l', Wire.fields? (fields.map RecordField.name) t' = some l' ∧ FollowAll fields l l' := by
  cases h with
  | same => exact ⟨l, hl, followAll_same ((length_fields? hl).trans (List.length_map _))⟩
  | @object ms ms' hms =>
    change (if ms.any fun m => m.1.isNone then none else _) = some l at hl
    split at hl
    · cases hl
    · rename_i hnamed
      obtain ⟨l', hl', hall⟩ := hms.followAll hnames hl
      refine ⟨l', (if_neg fun hany => hnamed ?_).trans hl', hall⟩
      simp only [List.any_eq_true, Option.isNone_iff_eq_none] at hany ⊢
      obtain ⟨m', hm', hnone⟩ := hany
      exact List.mem_map.1 (hms.names.subset (List.mem_map.2 ⟨m', hm', hnone⟩))
  | @array xs xs' hxs =>
    change (if xs.length ≤ _ then some _ else none) = some l at hl
    split at hl
    · rename_i hlen
      cases hl
      rw [List.length_map] at hlen
      obtain ⟨hlen', hall⟩ := hxs.followAll hlen
      refine ⟨_, if_pos (by simpa using hlen'), ?_⟩
      simpa using hall
    · cases hl

end Fields

/-! ## What is read of a field -/

namespace RecordField

variable {α : Type} {f : RecordField} {o o' : Option Tree} {name : String}

theorem ReadBy.follows {read : Option Tree → Option α} {a : α} (h : f.ReadBy read) (ho : f.Follows o o')
    (hread : read o = some a) : read o' = some a := by
  cases ho with
  | same => exact hread
  | thin hthins => exact h.thin hthins hread
  | empty hempty => exact h.empty hempty hread

/-- One field is read, and the others after it. -/
theorem ReadBy.bind {β : Type} {read : Option Tree → Option α} {next next' : α → Option β} {b : β} (h : f.ReadBy read)
    (ho : f.Follows o o') (hnext : ∀ a, next a = some b → next' a = some b) (hread : (read o).bind next = some b) :
    (read o').bind next' = some b := by
  obtain ⟨a, ha, hb⟩ := Option.bind_eq_some_iff.1 hread
  exact Option.bind_eq_some_iff.2 ⟨a, h.follows ho ha, hnext a hb⟩

theorem readBy_plain {empty : Tree} {read : Option Tree → Option α} (h : read (some empty) = read none) :
    (plain name empty).ReadBy read where
  thin := by
    rintro v _ a rfl hread
    exact hread
  empty := by
    rintro _ a rfl hread
    exact h.symm.trans hread

theorem readBy_text : (text name).ReadBy textField := readBy_plain rfl

theorem readBy_flag : (flag name).ReadBy boolField := readBy_plain rfl

theorem readBy_texts : (texts name).ReadBy textsField := readBy_plain rfl

theorem readBy_dict : (dict name).ReadBy dictField := readBy_plain rfl

end RecordField

/-! ## What is read of a record -/

/-- What is read of a record with these fields is read of all its thinned forms. -/
def Tolerant {α : Type} (fields : List RecordField) (read : Tree → Option α) : Prop :=
  ∀ t t' a, Thinned fields t t' → read t = some a → read t' = some a

section Records

variable {α : Type} {fields : List RecordField} {read : Tree → Option α} {name : String}

theorem Tolerant.readBy_list (h : Tolerant fields read) :
    (RecordField.list name fields).ReadBy (orEmpty [] (list? read)) where
  thin := by
    rintro _ _ as ⟨xs, xs', rfl, rfl, hxs⟩ hread
    change xs.mapM read = some as at hread
    show xs'.mapM read = some as
    induction hxs generalizing as with
    | nil => exact hread
    | cons hx _ ih =>
      obtain ⟨a, as, ha, has, rfl⟩ := mapM_cons_eq_some hread
      rw [List.mapM_cons, h _ _ a hx ha, ih has]
      rfl
  empty := by
    rintro _ a rfl hread
    exact hread

/-- What is thinned is not absent, and stays so. -/
theorem Tolerant.readBy_optional (h : Tolerant fields read) :
    (RecordField.optional name fields).ReadBy (orEmpty none (optional? read)) where
  thin := by
    intro v v' a hthins hread
    have hthinned := hthins
    cases hthins with
    | same => exact hread
    | object | array =>
      obtain ⟨b, hb, rfl⟩ := Option.map_eq_some_iff.1 hread
      exact congrArg (Option.map some) (h _ _ b hthinned hb)
  empty := by
    rintro _ a rfl hread
    exact hread

theorem Tolerant.readBy_record {empty : α} (h : Tolerant fields read) (hobject : read (.object []) = some empty)
    (harray : read (.array []) = some empty) : (RecordField.record name fields).ReadBy (orEmpty empty read) where
  thin := h _ _ _
  empty := by
    rintro v a (hempty | hempty) hread
    · exact hobject.symm.trans (h v _ a hempty hread)
    · exact harray.symm.trans (h v _ a hempty hread)

/-- A reader of the fields one by one reads the same of a thinned record if it does so of its fields. -/
theorem tolerant_of_fields {names : List String} {build : List (Option Tree) → Option α}
    (hnames : names = fields.map RecordField.name) (hnodup : names.Nodup)
    (hbuild : ∀ {l l' a}, FollowAll fields l l' → build l = some a → build l' = some a) :
    Tolerant fields fun t => (fields? names t).bind build := by
  intro t t' a h hread
  subst hnames
  obtain ⟨l, hl, hread⟩ := Option.bind_eq_some_iff.1 hread
  obtain ⟨l', hl', hall⟩ := h.fields? hnodup hl
  exact Option.bind_eq_some_iff.2 ⟨l', hl', hbuild hall hread⟩

end Records

end Wire

open Wire

/-! ## Records -/

/- The fields of each record, by the names of their members. -/

def Pagination.fields : List RecordField := [.plain "next" .null, .flag "partial"]

/-- The fields of a page of records that have the fields `items`. -/
def Page.fields (items : List RecordField) : List RecordField :=
  [.list "data" items, .optional "pagination" Pagination.fields]

def Cluster.fields : List RecordField := [.text "id", .text "name"]

def Project.fields : List RecordField := [.text "id", .text "name", .text "clusterId"]

def Catalog.fields : List RecordField := [.text "id", .text "name"]

def Template.fields : List RecordField :=
  [.text "id", .text "name", .text "catalogId", .texts "categories", .text "defaultVersion", .dict "versionLinks"]

def Question.fields : List RecordField :=
  [.text "variable", .text "label", .text "description", .text "type", .flag "required", .text "default",
    .texts "options"]

def TemplateVersion.fields : List RecordField :=
  [.text "id", .text "version", .dict "links", .list "questions" Question.fields]

def Answer.fields : List RecordField := [.text "clusterId", .text "projectId", .dict "values"]

def Target.fields : List RecordField := [.text "projectId", .text "state"]

def Condition.fields : List RecordField := [.text "type", .text "status", .text "message"]

def AppStatus.fields : List RecordField := [.text "revisionId", .list "conditions" Condition.fields]

def App.fields : List RecordField :=
  [.text "id", .text "name", .text "state", .text "templateVersionId", .list "targets" Target.fields,
    .list "answers" Answer.fields, .record "status" AppStatus.fields, .text "transitioning",
    .text "transitioningMessage", .dict "links"]

def Revision.fields : List RecordField := [.text "id", .text "name", .text "created"]

/-- The fields of a kind's records. -/
def Kind.fields : Kind → List RecordField
  | .cluster => Cluster.fields
  | .project => Project.fields
  | .template => Template.fields
  | .templateVersion => TemplateVersion.fields
  | .app => App.fields
  | .revision => Revision.fields
  | .catalog => Catalog.fields

open RecordField (readBy_text readBy_flag readBy_texts readBy_dict)

theorem Pagination.tolerant : Tolerant Pagination.fields Pagination.ofTree? := by
  refine tolerant_of_fields rfl (by decide) ?_
  have hnext : (RecordField.plain "next" .null).ReadBy (orEmpty none (optional? text?)) := RecordField.readBy_plain rfl
  rintro _ _ r (_ | ⟨h₁, _ | ⟨h₂, ⟨⟩⟩⟩)
  exact hnext.bind h₁ fun _ => readBy_flag.bind h₂ fun _ h => h

theorem Page.tolerant {α : Type} {items : List RecordField} {read : Tree → Option α} (h : Tolerant items read) :
    Tolerant (Page.fields items) (Page.ofTree? read) := by
  have hnames : ["data", "pagination"] = (Page.fields items).map RecordField.name := rfl
  refine tolerant_of_fields hnames (by decide) ?_
  rintro _ _ r (_ | ⟨h₁, _ | ⟨h₂, ⟨⟩⟩⟩)
  exact h.readBy_list.bind h₁ fun _ => Pagination.tolerant.readBy_optional.bind h₂ fun _ h => h

theorem Cluster.tolerant : Tolerant Cluster.fields Cluster.ofTree? := by
  refine tolerant_of_fields rfl (by decide) ?_
  rintro _ _ r (_ | ⟨h₁, _ | ⟨h₂, ⟨⟩⟩⟩)
  exact readBy_text.bind h₁ fun _ => readBy_text.bind h₂ fun _ h => h

theorem Project.tolerant : Tolerant Project.fields Project.ofTree? := by
  refine tolerant_of_fields rfl (by decide) ?_
  rintro _ _ r (_ | ⟨h₁, _ | ⟨h₂, _ | ⟨h₃, ⟨⟩⟩⟩⟩)
  exact readBy_text.bind h₁ fun _ => readBy_text.bind h₂ fun _ => readBy_text.bind h₃ fun _ h => h

theorem Catalog.tolerant : Tolerant Catalog.fields Catalog.ofTree? := by
  refine tolerant_of_fields rfl (by decide) ?_
  rintro _ _ r (_ | ⟨h₁, _ | ⟨h₂, ⟨⟩⟩⟩)
  exact readBy_text.bind h₁ fun _ => readBy_text.bind h₂ fun _ h => h

theorem Template.tolerant : Tolerant Template.fields Template.ofTree? := by
  refine tolerant_of_fields rfl (by decide) ?_
  rintro _ _ r (_ | ⟨h₁, _ | ⟨h₂, _ | ⟨h₃, _ | ⟨h₄, _ | ⟨h₅, _ | ⟨h₆, ⟨⟩⟩⟩⟩⟩⟩⟩)
  exact readBy_text.bind h₁ fun _ => readBy_text.bind h₂ fun _ => readBy_text.bind h₃ fun _ =>
    readBy_texts.bind h₄ fun _ => readBy_text.bind h₅ fun _ => readBy_dict.bind h₆ fun _ h => h

theorem Question.tolerant : Tolerant Question.fields Question.ofTree? := by
  refine tolerant_of_fields rfl (by decide) ?_
  rintro _ _ r (_ | ⟨h₁, _ | ⟨h₂, _ | ⟨h₃, _ | ⟨h₄, _ | ⟨h₅, _ | ⟨h₆, _ | ⟨h₇, ⟨⟩⟩⟩⟩⟩⟩⟩⟩)
  exact readBy_text.bind h₁ fun _ => readBy_text.bind h₂ fun _ => readBy_text.bind h₃ fun _ =>
    readBy_text.bind h₄ fun _ => readBy_flag.bind h₅ fun _ => readBy_text.bind h₆ fun _ =>
    readBy_texts.bind h₇ fun _ h => h

theorem TemplateVersion.tolerant : Tolerant TemplateVersion.fields TemplateVersion.ofTree? := by
  refine tolerant_of_fields rfl (by decide) ?_
  rintro _ _ r (_ | ⟨h₁, _ | ⟨h₂, _ | ⟨h₃, _ | ⟨h₄, ⟨⟩⟩⟩⟩⟩)
  exact readBy_text.bind h₁ fun _ => readBy_text.bind h₂ fun _ => readBy_dict.bind h₃ fun _ =>
    Question.tolerant.readBy_list.bind h₄ fun _ h => h

theorem Answer.tolerant : Tolerant Answer.fields Answer.ofTree? := by
  refine tolerant_of_fields rfl (by decide) ?_
  rintro _ _ r (_ | ⟨h₁, _ | ⟨h₂, _ | ⟨h₃, ⟨⟩⟩⟩⟩)
  exact readBy_text.bind h₁ fun _ => readBy_text.bind h₂ fun _ => readBy_dict.bind h₃ fun _ h => h

theorem Target.tolerant : Tolerant Target.fields Target.ofTree? := by
  refine tolerant_of_fields rfl (by decide) ?_
  rintro _ _ r (_ | ⟨h₁, _ | ⟨h₂, ⟨⟩⟩⟩)
  exact readBy_text.bind h₁ fun _ => readBy_text.bind h₂ fun _ h => h

theorem Condition.tolerant : Tolerant Condition.fields Condition.ofTree? := by
  refine tolerant_of_fields rfl (by decide) ?_
  rintro _ _ r (_ | ⟨h₁, _ | ⟨h₂, _ | ⟨h₃, ⟨⟩⟩⟩⟩)
  exact readBy_text.bind h₁ fun _ => readBy_text.bind h₂ fun _ => readBy_text.bind h₃ fun _ h => h

theorem AppStatus.tolerant : Tolerant AppStatus.fields AppStatus.ofTree? := by
  refine tolerant_of_fields rfl (by decide) ?_
  rintro _ _ r (_ | ⟨h₁, _ | ⟨h₂, ⟨⟩⟩⟩)
  exact readBy_text.bind h₁ fun _ => Condition.tolerant.readBy_list.bind h₂ fun _ h => h

theorem App.tolerant : Tolerant App.fields App.ofTree? := by
  refine tolerant_of_fields rfl (by decide) ?_
  have hstatus : (RecordField.record "status" AppStatus.fields).ReadBy (orEmpty {} AppStatus.ofTree?) :=
    AppStatus.tolerant.readBy_record rfl rfl
  rintro _ _ r (_ | ⟨h₁, _ | ⟨h₂, _ | ⟨h₃, _ | ⟨h₄, _ | ⟨h₅, _ | ⟨h₆, _ | ⟨h₇, _ | ⟨h₈, _ | ⟨h₉, _ | ⟨h₁₀, ⟨⟩⟩⟩⟩⟩⟩⟩⟩⟩⟩⟩)
  exact readBy_text.bind h₁ fun _ => readBy_text.bind h₂ fun _ => readBy_text.bind h₃ fun _ =>
    readBy_text.bind h₄ fun _ => Target.tolerant.readBy_list.bind h₅ fun _ =>
    Answer.tolerant.readBy_list.bind h₆ fun _ => hstatus.bind h₇ fun _ => readBy_text.bind h₈ fun _ =>
    readBy_text.bind h₉ fun _ => readBy_dict.bind h₁₀ fun _ h => h

theorem Revision.tolerant : Tolerant Revision.fields Revision.ofTree? := by
  refine tolerant_of_fields rfl (by decide) ?_
  rintro _ _ r (_ | ⟨h₁, _ | ⟨h₂, _ | ⟨h₃, ⟨⟩⟩⟩⟩)
  exact readBy_text.bind h₁ fun _ => readBy_text.bind h₂ fun _ => readBy_text.bind h₃ fun _ h => h

namespace Kind

theorem tolerant (kind : Kind) : Tolerant kind.fields kind.ofTree? := by
  cases kind with
  | cluster => exact Cluster.tolerant
  | project => exact Project.tolerant
  | template => exact Template.tolerant
  | templateVersion => exact TemplateVersion.tolerant
  | app => exact App.tolerant
  | revision => exact Revision.tolerant
  | catalog => exact Catalog.tolerant

/-- Records and pages of records are read back as they were written. Members of other names than those of the
fields, and members that hold the empty value of their field, can be left out of them at any depth; what is
read is the same. -/
theorem wire_reads_back (kind : Kind) :
    (∀ r : kind.Record, kind.ofTree? (kind.toJson r).toTree = some r) ∧
    (∀ p : Page kind.Record, Page.ofTree? kind.ofTree? (p.toJson kind.toJson).toTree = some p) ∧
    (∀ t t' r, Thinned kind.fields t t' → kind.ofTree? t = some r → kind.ofTree? t' = some r) ∧
    ∀ t t' p, Thinned (Page.fields kind.fields) t t' → Page.ofTree? kind.ofTree? t = some p →
      Page.ofTree? kind.ofTree? t' = some p :=
  ⟨kind.ofTree?_toJson, Page.ofTree?_toJson kind.ofTree?_toJson, kind.tolerant, Page.tolerant kind.tolerant⟩

/-- An app with members that say nothing, in it and in its records. -/
def wordyShop : Tree :=
  .object [(some "id", .text (some "a-1")), (some "kind", .text (some "app")), (some "name", .text (some "shop")),
    (some "targets", .array [.object [(some "projectId", .text (some "c-1:p-1")), (some "state", .text (some "")),
      (some "pods", .array [.null])]]),
    (some "answers", .array [.object [(some "values", .object [(some "size", .text (some ""))])]]),
    (some "status", .object [(some "revisionId", .text (some "")), (some "conditions", .array []),
      (some "age", .null)])]

/-- The same app without them. An empty answer is no empty field. -/
def terseShop : Tree :=
  .object [(some "id", .text (some "a-1")), (some "name", .text (some "shop")),
    (some "targets", .array [.object [(some "projectId", .text (some "c-1:p-1"))]]),
    (some "answers", .array [.object [(some "values", .object [(some "size", .text (some ""))])]])]

theorem thinned_shop : Thinned App.fields wordyShop terseShop := by
  have htarget : Thinned Target.fields
      (.object [(some "projectId", .text (some "c-1:p-1")), (some "state", .text (some "")),
        (some "pods", .array [.null])])
      (.object [(some "projectId", .text (some "c-1:p-1"))]) :=
    .object (.keep (@ThinnedMembers.empty _ (.text "state") _ _ _ (by simp [Target.fields]) rfl
      (.unknown (by decide) .nil)))
  have hstatus : Thinned AppStatus.fields
      (.object [(some "revisionId", .text (some "")), (some "conditions", .array []), (some "age", .null)])
      (.object []) :=
    .object (@ThinnedMembers.empty _ (.text "revisionId") _ _ _ (by simp [AppStatus.fields]) rfl
      (@ThinnedMembers.empty _ (.list "conditions" Condition.fields) _ _ _ (by simp [AppStatus.fields]) rfl
        (.unknown (by decide) .nil)))
  refine .object (.keep (.unknown (by decide) (.keep ?_)))
  refine @ThinnedMembers.thin _ (.list "targets" Target.fields) _ _ _ _ (by simp [App.fields])
    ⟨_, _, rfl, rfl, .cons htarget .nil⟩ (.keep ?_)
  exact @ThinnedMembers.empty _ (.record "status" AppStatus.fields) _ _ _ (by simp [App.fields]) (.inl hstatus) .nil

theorem wire_reads_back_shop :
    Kind.ofTree? .app wordyShop = Kind.ofTree? .app terseShop ∧
      Kind.ofTree? .app terseShop = some { id := "a-1", name := "shop", targets := [{ projectId := "c-1:p-1" }],
                                           answers := [{ values := Dict.ofList [("size", "")] }] } := by
  have hread : Kind.ofTree? .app wordyShop =
      some { id := "a-1", name := "shop", targets := [{ projectId := "c-1:p-1" }],
             answers := [{ values := Dict.ofList [("size", "")] }] } := rfl
  have hterse := (wire_reads_back .app).2.2.1 _ _ _ thinned_shop hread
  exact ⟨hread.trans hterse.symm, hterse⟩

end Kind

end MultiCluster
