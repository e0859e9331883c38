/-
What becomes of an app that is read, changed and written again. Its record knows ten members; each member
of those that the object had and that were not changed comes back with an equal value, except that some
are left out when they are blank, and no other member is written (`App.returned`). So it is with the
records inside an app.
-/
import MultiCluster.Proofs.Record.Wire
namespace MultiCluster

open Json (Tree)
open Wire

/-! ## Members that come back -/

/-- A member that the object has under the name is in the value, with an equal value. -/
def Comes (name : String) (t : Tree) (j : Json) : Prop :=
  ∀ v, t.Has name v → ∃ w, v.value? = some w ∧ j.member? name = some w

/-- A member that the object has under the name is in the value, with an equal value, unless it is blank. -/
def ComesUnlessBlank (name : String) (t : Tree) (j : Json) : Prop :=
  ∀ v, t.Has name v → ∃ w, v.value? = some w ∧ j.member? name = if w.isBlank then none else some w

/-- The second is what is written of the object as a condition. -/
structure Condition.Returned (t : Tree) (j : Json) : Prop where
  type : Comes "type" t j
  status : Comes "status" t j
  message : ComesUnlessBlank "message" t j
  others : ∀ name, name ∉ ["type", "status", "message"] → j.member? name = none

/-- The second is what is written of the object as a status. -/
structure AppStatus.Returned (t : Tree) (j : Json) : Prop where
  revisionId : Comes "revisionId" t j
  conditions : ∀ v, t.Has "conditions" v → ∃ (cs : List Tree) (js : List Json),
    v = .array cs ∧ j.member? "conditions" = some (.array js) ∧
    js.length = cs.length ∧ ∀ (i : Nat) c, cs[i]? = some c → ∃ w, js[i]? = some w ∧ Condition.Returned c w
  others : ∀ name, name ∉ ["revisionId", "conditions"] → j.member? name = none

/-- The members that the record of an app has. -/
def App.memberNames : List String :=
  ["id", "name", "state", "templateVersionId", "targets", "answers", "status", "transitioning", "transitioningMessage",
    "links"]

/-- The second is what is written of the object as an app, after its version, answers and targets may have
been changed. -/
structure App.Returned (t : Tree) (j : Json) : Prop where
  name : Comes "name" t j
  unlessBlank : ∀ name ∈ ["id", "state", "transitioning", "transitioningMessage", "links"], ComesUnlessBlank name t j
  status : ∀ v, t.Has "status" v → ∃ w, j.member? "status" = some w ∧ AppStatus.Returned v w
  others : ∀ name, name ∉ App.memberNames → j.member? name = none

/-! ## Reading and writing again -/

section Members

variable {names : List String} {t v : Tree} {fields : List (Option Tree)} {name s : String} {j : Json}

/-- A text that is written as it was read comes back. -/
theorem comes_text (h : fields? names t = some fields) (i : Nat) (hn : names[i]? = some name)
    (hs : fields[i]?.bind textField = some s) (hj : j.member? name = some (.text s)) : Comes name t j := by
  intro v hv
  rw [field_of_has h hn hv] at hs
  exact ⟨.text s, value?_of_textField hs, hj⟩

theorem comesUnlessBlank_text (h : fields? names t = some fields) (i : Nat) (hn : names[i]? = some name)
    (hs : fields[i]?.bind textField = some s) (hj : j.member? name = if s.isEmpty then none else some (.text s)) :
    ComesUnlessBlank name t j := by
  intro v hv
  rw [field_of_has h hn hv] at hs
  exact ⟨.text s, value?_of_textField hs, hj⟩

theorem comesUnlessBlank_texts {d : Dict String} (h : fields? names t = some fields) (i : Nat)
    (hn : names[i]? = some name) (hd : fields[i]?.bind dictField = some d)
    (hj : j.member? name = if d.isEmpty then none else some (Json.ofTexts d)) : ComesUnlessBlank name t j := by
  intro v hv
  rw [field_of_has h hn hv] at hd
  have hblank : (Json.ofTexts d).isBlank = d.isEmpty := by
    show (d.toList.map fun e => (e.1, Json.text e.2)).isEmpty = d.toList.isEmpty
    rw [List.isEmpty_map]
  exact ⟨_, value?_of_dictField hd, by rw [hblank, hj]⟩

end Members

theorem Condition.returned {t : Tree} {c : Condition} (h : Condition.ofTree? t = some c) :
    Condition.Returned t c.toJson := by
  obtain ⟨fields, hfields, h⟩ := Option.bind_eq_some_iff.1 h
  split at h
  · obtain ⟨type, htype, h⟩ := Option.bind_eq_some_iff.1 h
    obtain ⟨status, hstatus, h⟩ := Option.bind_eq_some_iff.1 h
    obtain ⟨message, hmessage, h⟩ := Option.bind_eq_some_iff.1 h
    cases h
    constructor
    case type => exact comes_text hfields 0 rfl htype (by simp [Condition.toJson, member?_object])
    case status => exact comes_text hfields 1 rfl hstatus (by simp [Condition.toJson, member?_object])
    case message => exact comesUnlessBlank_text hfields 2 rfl hmessage (by simp [Condition.toJson, member?_object])
    case others =>
      intro n hn
      simp only [List.mem_cons, List.not_mem_nil, or_false, not_or] at hn
      simp [Condition.toJson, member?_object, hn, Ne.symm]
  · cases h

theorem AppStatus.returned {t : Tree} {s : AppStatus} (h : AppStatus.ofTree? t = some s) :
    AppStatus.Returned t s.toJson := by
  obtain ⟨fields, hfields, h⟩ := Option.bind_eq_some_iff.1 h
  split at h
  · obtain ⟨revisionId, hrevisionId, h⟩ := Option.bind_eq_some_iff.1 h
    obtain ⟨conditions, hconditions, h⟩ := Option.bind_eq_some_iff.1 h
    cases h
    constructor
    case revisionId => exact comes_text hfields 0 rfl hrevisionId (by simp [AppStatus.toJson, member?_object])
    case conditions =>
      intro v hv
      have hfield := field_of_has hfields (i := 1) rfl hv
      cases hfield
      cases v with
      | array cs =>
        have hread : cs.mapM Condition.ofTree? = some conditions := hconditions
        refine ⟨cs, conditions.map Condition.toJson, rfl, by simp [AppStatus.toJson, member?_object], ?_, ?_⟩
        · rw [List.length_map, length_of_mapM hread]
        · intro i c hc
          obtain ⟨c', hc', hread'⟩ := getElem?_of_mapM hread hc
          exact ⟨c'.toJson, by rw [List.getElem?_map, hc']; rfl, Condition.returned hread'⟩
      | _ => cases hconditions
    case others =>
      intro n hn
      simp only [List.mem_cons, List.not_mem_nil, or_false, not_or] at hn
      simp [AppStatus.toJson, member?_object, hn, Ne.symm]
  · cases h

/-- An app that is read and written again with another version, other answers and other targets. -/
theorem App.returned {t : Tree} {a : App} (h : App.ofTree? t = some a) (templateVersionId : String)
    (answers : List Answer) (targets : List Target) :
    App.Returned t (App.toJson { a with templateVersionId, answers, targets }) := by
  obtain ⟨fields, hfields, h⟩ := Option.bind_eq_some_iff.1 h
  split at h
  · obtain ⟨id, hid, h⟩ := Option.bind_eq_some_iff.1 h
    obtain ⟨name, hname, h⟩ := Option.bind_eq_some_iff.1 h
    obtain ⟨state, hstate, h⟩ := Option.bind_eq_some_iff.1 h
    obtain ⟨_, -, h⟩ := Option.bind_eq_some_iff.1 h
    obtain ⟨_, -, h⟩ := Option.bind_eq_some_iff.1 h
    obtain ⟨_, -, h⟩ := Option.bind_eq_some_iff.1 h
    obtain ⟨status, hstatus, h⟩ := Option.bind_eq_some_iff.1 h
    obtain ⟨transitioning, htransitioning, h⟩ := Option.bind_eq_some_iff.1 h
    obtain ⟨message, hmessage, h⟩ := Option.bind_eq_some_iff.1 h
    obtain ⟨links, hlinks, h⟩ := Option.bind_eq_some_iff.1 h
    cases h
    constructor
    case name => exact comes_text hfields 1 rfl hname (by simp [App.toJson, member?_object])
    case unlessBlank =>
      intro n hn
      simp only [List.mem_cons, List.not_mem_nil, or_false] at hn
      rcases hn with rfl | rfl | rfl | rfl | rfl
      · exact comesUnlessBlank_text hfields 0 rfl hid (by simp [App.toJson, member?_object])
      · exact comesUnlessBlank_text hfields 2 rfl hstate (by simp [App.toJson, member?_object])
      · exact comesUnlessBlank_text hfields 7 rfl htransitioning (by simp [App.toJson, member?_object])
      · exact comesUnlessBlank_text hfields 8 rfl hmessage (by simp [App.toJson, member?_object])
      · exact comesUnlessBlank_texts hfields 9 rfl hlinks (by simp [App.toJson, member?_object])
    case status =>
      intro v hv
      have hfield := field_of_has hfields (i := 6) rfl hv
      cases hfield
      exact ⟨status.toJson, by simp [App.toJson, member?_object], AppStatus.returned hstatus⟩
    case others =>
      intro n hn
      simp only [App.memberNames, List.mem_cons, List.not_mem_nil, or_false, not_or] at hn
      simp [App.toJson, member?_object, hn, Ne.symm]
  · cases h

end MultiCluster
