/-
Texts of scoped keys read back. A key is determined by its text together with the places of the first
two colons, so exactly the keys without a colon in the wrong place (`Proper`) are readings of a text,
and each of them is the reading of its own (`parse_eq_iff`). How many scopes a key has is told by the
colons of its text, and joining undoes cutting wherever no part in front has a colon (`parts_read_back`).
-/
import MultiCluster.Scope
namespace MultiCluster

theorem toList_joinScope (scope key : String) : (joinScope scope key).toList = scope.toList ++ ':' :: key.toList := by
  simp [joinScope]

theorem joinScope_ne_empty (scope key : String) : joinScope scope key ≠ "" := fun h => by
  simpa [toList_joinScope] using congrArg String.toList h

theorem colon_mem_joinScope (scope key : String) : ':' ∈ (joinScope scope key).toList := by simp [toList_joinScope]

theorem joinScope_assoc (a b c : String) : joinScope (joinScope a b) c = joinScope a (joinScope b c) := by
  simp [joinScope, String.append_assoc]

theorem cut?_joinScope {scope : String} (h : ':' ∉ scope.toList) (key : String) :
    Text.cut? ':' (joinScope scope key).toList = some (scope.toList, key.toList) :=
  Text.cut?_eq_some_iff.2 ⟨toList_joinScope scope key, h⟩

theorem splitScope_joinScope {scope : String} (h : ':' ∉ scope.toList) (key : String) :
    splitScope (joinScope scope key) = (scope, key) := by
  simp [splitScope, cut?_joinScope h]

/-- What is cut off at the first colon has none. -/
theorem colon_notMem_splitScope (reference : String) : ':' ∉ (splitScope reference).1.toList := by
  unfold splitScope
  split
  · rename_i a b h
    simpa using (Text.cut?_eq_some_iff.1 h).2
  · simp

theorem splitScope_joinScope_iff {scope key : String} :
    splitScope (joinScope scope key) = (scope, key) ↔ ':' ∉ scope.toList := by
  constructor
  · intro h
    have hcut := colon_notMem_splitScope (joinScope scope key)
    rwa [h] at hcut
  · exact fun h => splitScope_joinScope h key

theorem count_colon_joinScope (scope key : String) :
    (joinScope scope key).toList.count ':' = scope.toList.count ':' + key.toList.count ':' + 1 := by
  rw [toList_joinScope, List.count_append, List.count_cons_self, Nat.add_assoc]

namespace ScopedKey

/-- No part of the key but a project's last one has a colon. -/
def Proper : ScopedKey → Prop
  | .global k => ':' ∉ k.toList
  | .cluster c k => ':' ∉ c.toList ∧ ':' ∉ k.toList
  | .project c p _ => ':' ∉ c.toList ∧ ':' ∉ p.toList

theorem proper_parse (s : String) : (parse s).Proper := by
  unfold parse
  split
  · rename_i h
    exact Text.cut?_eq_none_iff.1 h
  · rename_i a rest h
    have ha := (Text.cut?_eq_some_iff.1 h).2
    split
    · rename_i hr
      exact ⟨by simpa using ha, by simpa using Text.cut?_eq_none_iff.1 hr⟩
    · rename_i b k hr
      exact ⟨by simpa using ha, by simpa using (Text.cut?_eq_some_iff.1 hr).2⟩

theorem parse_render {k : ScopedKey} (h : k.Proper) : parse k.render = k := by
  cases k with
  | global k => simp [parse, render, Text.cut?_eq_none_iff.2 h]
  | cluster c k => simp [parse, render, cut?_joinScope h.1, Text.cut?_eq_none_iff.2 h.2]
  | project c p k =>
    simp [parse, render, joinScope_assoc, cut?_joinScope h.1, cut?_joinScope h.2]

theorem parse_eq_iff {s : String} {k : ScopedKey} : parse s = k ↔ k.render = s ∧ k.Proper := by
  constructor
  · rintro rfl
    exact ⟨render_parse s, proper_parse s⟩
  · rintro ⟨rfl, h⟩
    exact parse_render h

/-! ## Parts -/

/-- The parts of a key, from the outermost scope to the key itself. -/
def parts : ScopedKey → List String
  | .global k => [k]
  | .cluster c k => [c, k]
  | .project c p k => [c, p, k]

theorem intercalate_parts (k : ScopedKey) : ":".intercalate k.parts = k.render := by
  cases k <;> simp [parts, render, joinScope, String.append_assoc]

/-- The colons in the text of a proper key: one behind each scope, and those that its last part has. -/
def colons : ScopedKey → Nat
  | .global _ => 0
  | .cluster _ _ => 1
  | .project _ _ k => k.toList.count ':' + 2

theorem count_colon_render {k : ScopedKey} (h : k.Proper) : k.render.toList.count ':' = k.colons := by
  cases k with
  | global k => exact List.count_eq_zero.2 h
  | cluster c k =>
    have hc := List.count_eq_zero.2 h.1
    have hk := List.count_eq_zero.2 h.2
    rw [render, count_colon_joinScope, hc, hk, colons]
  | project c p k =>
    have hc := List.count_eq_zero.2 h.1
    have hp := List.count_eq_zero.2 h.2
    rw [render, count_colon_joinScope, count_colon_joinScope, hc, hp, colons]
    omega

theorem count_colon (s : String) : s.toList.count ':' = (parse s).colons := by
  rw [← count_colon_render (proper_parse s), render_parse]

/-- The parts of a reading are the text again. A text without a colon is a global key, with one a cluster's
and with more a project's; keys are read back as they were joined exactly where no scope has a colon, and
a cluster's own key has none; and the two parts of a project's scope are found again in its text. -/
theorem parts_read_back :
    (∀ s, ":".intercalate (parse s).parts = s) ∧
    (∀ s, ((∃ k, parse s = .global k) ↔ s.toList.count ':' = 0) ∧
      ((∃ c k, parse s = .cluster c k) ↔ s.toList.count ':' = 1) ∧
      ((∃ c p k, parse s = .project c p k) ↔ 2 ≤ s.toList.count ':')) ∧
    (∀ c p k, parse (joinScope (joinScope c p) k) = .project c p k ↔ ':' ∉ c.toList ∧ ':' ∉ p.toList) ∧
    (∀ c k, parse (joinScope c k) = .cluster c k ↔ ':' ∉ c.toList ∧ ':' ∉ k.toList) ∧
    (∀ scope key, splitScope (joinScope scope key) = (scope, key) ↔ ':' ∉ scope.toList) ∧
    ∀ s c p k, parse s = .project c p k → splitScope (joinScope c p) = (c, p) := by
  refine ⟨fun s => ?joined, fun s => ?shape, fun c p k => ?project, fun c k => ?cluster,
    fun _ _ => splitScope_joinScope_iff, fun s c p k h => ?scope⟩
  case joined => rw [intercalate_parts, render_parse]
  case shape =>
    rw [count_colon]
    cases parse s <;> simp [colons]
  case project => exact parse_eq_iff.trans (and_iff_right rfl)
  case cluster => exact parse_eq_iff.trans (and_iff_right rfl)
  case scope =>
    have hproper := proper_parse s
    rw [h] at hproper
    exact splitScope_joinScope hproper.1 p

/-- Colons behind the second one belong to the key, and parts may be empty. -/
theorem parts_read_back_web :
    parse "prod::a:b" = .project "prod" "" "a:b" ∧ splitScope (joinScope "prod" "") = ("prod", "") :=
  have h : parse "prod::a:b" = .project "prod" "" "a:b" := by decide
  ⟨h, parts_read_back.2.2.2.2.2 _ _ _ _ h⟩

end ScopedKey

end MultiCluster
