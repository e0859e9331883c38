/-
The ID of the template version that an app is moved to. An install takes it from the link that the template has for the
version (`LeadsTo`); an upgrade puts the version in place of the old one at the end of the ID that the app has
(`replaceVersion`). Where the template's links lead to a common base followed by the version, and so do the IDs of the
records that the upgrades start from, both give the same ID, one upgrade after the other (`upgrade_takes_selected`). An
empty version is the exception: for an install it means the default version.
-/
import MultiCluster.Proofs.Lifecycle.Proposal
namespace MultiCluster

namespace TemplateVersion

/-! ## Links -/

/-- The link leads to the ID: it stands at the end of the path, behind its last slash if it has one, and the path ends
where a query or a fragment begins. -/
def LeadsTo (link id : String) : Prop :=
  ∃ path rest : List Char, link.toList = path ++ id.toList ++ rest ∧ (path = [] ∨ ∃ p, path = p ++ ['/']) ∧
    '/' ∉ id.toList ∧ (∀ c ∈ path ++ id.toList, c ≠ '?' ∧ c ≠ '#') ∧ ∀ c ∈ rest.head?, c = '?' ∨ c = '#'

theorem split_append_cons (c : Char) (p s : List Char) :
    Text.split c (p ++ c :: s) = Text.split c p ++ Text.split c s := by
  induction p with
  | nil => simp [Text.split]
  | cons x p ih =>
    by_cases h : x = c
    · simp [Text.split, h, ih]
    · simp only [List.cons_append, Text.split, if_neg h, ih]
      cases hs : Text.split c p with
      | nil => exact absurd hs (Text.split_ne_nil c p)
      | cons q qs => rfl

/-- The last piece is what stands behind the last separator. -/
theorem getLast_split {c : Char} {front last : List Char} (hfront : front = [] ∨ ∃ p, front = p ++ [c])
    (hlast : c ∉ last) : (Text.split c (front ++ last)).getLast (Text.split_ne_nil c _) = last := by
  have hsplit := Text.split_of_not_mem hlast
  rcases hfront with rfl | ⟨p, rfl⟩
  · simp [hsplit]
  · simp [split_append_cons, hsplit]

theorem exists_front_last (c : Char) (s : List Char) :
    ∃ front last, s = front ++ last ∧ (front = [] ∨ ∃ p, front = p ++ [c]) ∧ c ∉ last := by
  induction s with
  | nil => exact ⟨[], [], rfl, .inl rfl, List.not_mem_nil⟩
  | cons x s ih =>
    obtain ⟨front, last, rfl, hfront, hlast⟩ := ih
    rcases hfront with rfl | ⟨p, rfl⟩
    · by_cases h : x = c
      · exact ⟨[x], last, rfl, .inr ⟨[], by rw [h]; rfl⟩, hlast⟩
      · refine ⟨[], x :: last, rfl, .inl rfl, fun hm => ?_⟩
        rcases List.mem_cons.1 hm with rfl | hm
        · exact h rfl
        · exact hlast hm
    · exact ⟨x :: (p ++ [c]), last, rfl, .inr ⟨x :: p, rfl⟩, hlast⟩

/-- The path of a link. -/
def pathOf (link : String) : List Char := link.toList.takeWhile fun c => c ≠ '?' && c ≠ '#'

theorem pathOf_eq {link : String} {path rest : List Char} (h : link.toList = path ++ rest)
    (hpath : ∀ c ∈ path, c ≠ '?' ∧ c ≠ '#') (hrest : ∀ c ∈ rest.head?, c = '?' ∨ c = '#') : pathOf link = path := by
  rw [pathOf, h, List.takeWhile_append_of_pos fun c hc => by simpa using hpath c hc]
  cases rest with
  | nil => simp
  | cons c rest =>
    have hc : c = '?' ∨ c = '#' := hrest c rfl
    rw [List.takeWhile_cons_of_neg (by rcases hc with rfl | rfl <;> decide), List.append_nil]

/-- What a link leads to is read off it, and nothing else is. -/
theorem idOfLink_eq_iff {link id : String} : idOfLink link = id ↔ LeadsTo link id := by
  constructor
  · rintro rfl
    obtain ⟨front, last, hsplit, hfront, hlast⟩ := exists_front_last '/' (pathOf link)
    have hid : (idOfLink link).toList = last := by
      show (String.ofList ((Text.split '/' (pathOf link)).getLast _)).toList = last
      simp only [hsplit, getLast_split hfront hlast, String.toList_ofList]
    have hpath : ∀ c ∈ pathOf link, c ≠ '?' ∧ c ≠ '#' := fun c hc => by
      simpa using List.mem_takeWhile_imp hc
    refine ⟨front, link.toList.dropWhile fun c => c ≠ '?' && c ≠ '#', ?_, hfront, hid ▸ hlast, ?_, fun c hc => ?_⟩
    · rw [hid, ← hsplit]
      exact List.takeWhile_append_dropWhile.symm
    · rwa [hid, ← hsplit]
    · have := List.head?_dropWhile_not (fun c => c ≠ '?' && c ≠ '#') link.toList
      rw [Option.mem_def.1 hc] at this
      simpa [or_iff_not_imp_left] using this
  · rintro ⟨path, rest, hlink, hfront, hslash, hpath, hrest⟩
    have h : pathOf link = path ++ id.toList := pathOf_eq hlink hpath hrest
    show String.ofList ((Text.split '/' (pathOf link)).getLast _) = id
    simp only [h, getLast_split hfront hslash, String.ofList_toList]

/-! ## Replacing a version -/

/-- What is left of an ID without the old version does not depend on the new one. -/
theorem exists_stem (id old : String) : ∃ stem, ∀ new, replaceVersion id old new = stem ++ new := by
  refine ⟨String.ofList ((Text.dropSuffix? old.toList id.toList).getD id.toList), fun new => ?_⟩
  rw [replaceVersion, String.ofList_append, String.ofList_toList]

theorem replaceVersion_append (base old new : String) : replaceVersion (base ++ old) old new = base ++ new := by
  have h : Text.dropSuffix? old.toList (base ++ old).toList = some base.toList :=
    Text.dropSuffix?_eq_some_iff.2 (String.toList_append ..)
  rw [replaceVersion, h]
  simp [String.ofList_append]

theorem replaceVersion_replaceVersion (id a b c : String) :
    replaceVersion (replaceVersion id a b) b c = replaceVersion id a c := by
  obtain ⟨stem, hstem⟩ := exists_stem id a
  rw [hstem b, hstem c, replaceVersion_append]

/-! ## Numbered templates -/

/-- The template's links lead to the base followed by the version. -/
def NumberedBy (base : String) (template : Template) : Prop :=
  ∀ version link, template.versionLinks.get? version = some link → LeadsTo link (base ++ version)

/-- An install takes the version that is asked for, unless it is empty. -/
theorem select_of_numbered {base version : String} {template : Template} (h : NumberedBy base template)
    (hoffered : version ∈ template.versionLinks) (hempty : version = "" → template.defaultVersion = "")
    (reference : String) :
    select template (some version) reference = .ok (base ++ version) := by
  obtain ⟨link, hlink⟩ := Dict.mem_iff_exists.1 hoffered
  have hwanted : ((some version).filter fun v => !v.isEmpty).getD template.defaultVersion = version := by
    by_cases he : version = ""
    · subst he
      exact hempty rfl
    · simp [Option.filter, he]
  rw [select, hwanted, hlink]
  exact congrArg Except.ok (idOfLink_eq_iff.2 (h version link hlink))

end TemplateVersion

/-! ## What an upgrade sends -/

namespace Traced

/-- Only calls that ask were made in between. -/
def OnlyAsked (calls calls' : List Call) : Prop := ∃ new, calls' = new ++ calls ∧ ∀ c ∈ new, c.IsRead

instance : IsPreorder (List Call) OnlyAsked where
  refl calls := ⟨[], rfl, nofun⟩
  trans := by
    rintro calls _ _ ⟨new, rfl, hnew⟩ ⟨new', rfl, hnew'⟩
    refine ⟨new' ++ new, (List.append_assoc ..).symm, fun c hc => ?_⟩
    rcases List.mem_append.1 hc with hc | hc
    · exact hnew' c hc
    · exact hnew c hc

theorem readsKeep {σ : Type} [Client σ] : Client.ReadsKeep (σ := Traced σ) Traced.calls OnlyAsked := fun c hc _ =>
  ⟨[c], rfl, List.forall_mem_singleton.2 hc⟩

end Traced

namespace App

open TemplateVersion (replaceVersion)

section Sent

variable {σ : Type} [Client σ] {app : App} {flat : FlatAnswers} {version : String} {specifiers : List String}
  {t t' : Session (Traced σ)} {o : Except Fault App}

/-- The one update that an upgrade sends, if it comes to that, is that of the app it proposes. -/
theorem sent_upgrade (h : (app.upgrade flat version specifiers).run t = (o, t')) :
    ∃ new, t'.client.calls = new ++ t.client.calls ∧ (o.isOk → ∃ b, Call.update .app b ∈ new) ∧
      ∀ b : App, Call.update .app b ∈ new → ∃ u, (app.proposal flat version specifiers).run t = (.ok b, u) := by
  rw [upgrade_eq_proposal, Attempt.run_bind] at h
  have hkeeps := keeps_proposal Traced.readsKeep app flat version specifiers t
  rcases hproposal : (app.proposal flat version specifiers).run t with ⟨e | a, u⟩ <;> rw [hproposal] at h hkeeps
  all_goals obtain ⟨new, hcalls, hread⟩ := hkeeps
  · cases h
    exact ⟨new, hcalls, nofun, fun b hb => (hread _ hb).elim⟩
  · obtain rfl : t' = _ := (Prod.mk.inj h).2.symm
    refine ⟨.update .app a :: new, congrArg (Call.update .app a :: ·) hcalls, fun _ => ⟨a, List.mem_cons_self ..⟩, ?_⟩
    intro b hb
    rcases List.mem_cons.1 hb with hb | hb
    · cases hb
      exact ⟨u, rfl⟩
    · exact (hread _ hb).elim

end Sent

/-- The template version that an upgrade of the app finds has the base followed by its version as its ID. -/
def Numbered {σ : Type} [Client σ] (base : String) (app : App) (flat : FlatAnswers) (t : Session σ) : Prop :=
  ∀ answers t₁ current t₂, (FlatAnswers.toAnswers flat).run t = (.ok answers, t₁) →
    (Client.byId .templateVersion app.templateVersionId).run t₁ = (.ok current, t₂) →
    TemplateVersion.id current = base ++ TemplateVersion.version current

theorem Numbered.of_run {σ : Type} [Client σ] {base : String} {app : App} {flat : FlatAnswers} {t t₁ t₂ : Session σ}
    {answers : List Answer} {current : TemplateVersion} (h₁ : (FlatAnswers.toAnswers flat).run t = (.ok answers, t₁))
    (h₂ : (Client.byId .templateVersion app.templateVersionId).run t₁ = (.ok current, t₂))
    (h : current.id = base ++ current.version) : app.Numbered base flat t := by
  intro answers' t₁' current' t₂' h₁' h₂'
  cases h₁.symm.trans h₁'
  cases h₂.symm.trans h₂'
  exact h

theorem Numbered.proposal {σ : Type} [Client σ] {base version : String} {app a : App} {flat : FlatAnswers}
    {specifiers : List String} {t u : Session σ} (h : app.Numbered base flat t)
    (hrun : (app.proposal flat version specifiers).run t = (.ok a, u)) : a.templateVersionId = base ++ version := by
  obtain ⟨answers, t₁, current, t₂, projectIds, h₁, h₂, rfl⟩ := run_proposal_eq_ok hrun
  show replaceVersion current.id current.version version = base ++ version
  rw [h answers t₁ current t₂ h₁ h₂, TemplateVersion.replaceVersion_append]

/-! ## One upgrade after the other -/

/-- Upgrades of one app to one version after the other that succeed on some store, each from a template version that
is numbered. -/
inductive Upgrades (base : String) (app : App) : List String → App → Prop
  | none : Upgrades base app [] app
  | next {versions : List String} {version : String} {a a' : App} {flat : FlatAnswers} {specifiers : List String}
      {t t' : Session Store} (before : Upgrades base app versions a) (numbered : a.Numbered base flat t)
      (run : (a.upgrade flat version specifiers).run t = (.ok a', t')) : Upgrades base app (versions ++ [version]) a'

theorem Upgrades.templateVersionId {base : String} {app a : App} {versions : List String}
    (h : Upgrades base app versions a) :
    ∀ version ∈ versions.getLast?, a.templateVersionId = base ++ version := by
  cases h with
  | none => nofun
  | @next versions version a a' flat specifiers t t' before numbered run =>
    rw [upgrade_eq_proposal] at run
    obtain ⟨b, u, hproposal, hupdate⟩ := Attempt.run_bind_eq_ok_iff.1 run
    obtain ⟨rfl, -⟩ := Session.run_update_eq_ok hupdate
    intro v hv
    obtain rfl : version = v := by simpa using hv
    exact numbered.proposal hproposal

/-! ## Agreement -/

open TemplateVersion (NumberedBy select)

/-- Where the links of a template are numbered, and so is the template version that an upgrade finds, the upgrade sends
just the template version that an install of the version would take. Replacing a version and then the new one comes
to replacing it by the last one; and after upgrades one after the other the app has the ID for the last version. -/
theorem upgrade_takes_selected :
    (∀ {σ : Type} [Client σ] (base : String) (template : Template) (version reference : String) (app : App)
        (flat : FlatAnswers) (specifiers : List String) (t t' : Session (Traced σ)) (o : Except Fault App),
      NumberedBy base template → version ∈ template.versionLinks → (version = "" → template.defaultVersion = "") →
      app.Numbered base flat t → (app.upgrade flat version specifiers).run t = (o, t') →
      ∃ new, t'.client.calls = new ++ t.client.calls ∧ (o.isOk → ∃ b, Call.update .app b ∈ new) ∧
        ∀ b : App, Call.update .app b ∈ new → select template (some version) reference = .ok b.templateVersionId) ∧
    (∀ id a b c : String, replaceVersion (replaceVersion id a b) b c = replaceVersion id a c) ∧
    ∀ (base : String) (app a : App) (versions : List String), Upgrades base app versions a →
      ∀ version ∈ versions.getLast?, a.templateVersionId = base ++ version := by
  refine ⟨?_, TemplateVersion.replaceVersion_replaceVersion, fun base app a versions => Upgrades.templateVersionId⟩
  intro σ _ base template version reference app flat specifiers t t' o hlinks hoffered hempty hnumbered hrun
  obtain ⟨new, hcalls, hsent, hproposed⟩ := sent_upgrade hrun
  refine ⟨new, hcalls, hsent, fun b hb => ?_⟩
  obtain ⟨u, hproposal⟩ := hproposed b hb
  rw [hnumbered.proposal hproposal]
  exact TemplateVersion.select_of_numbered hlinks hoffered hempty reference

/-- The template of the app, which offers an empty version beside its default version. -/
def kioskTemplate : Template :=
  { id := "kiosk"
    name := "kiosk"
    defaultVersion := "1.0.0"
    versionLinks := Dict.ofList [("", "/v/kiosk-"), ("1.0.0", "/v/kiosk-1.0.0"),
      ("1.1.0", "https://h/v/kiosk-1.1.0?x=/y"), ("1.2.0", "/v/kiosk-1.2.0")] }

def kioskVersion (id version : String) : TemplateVersion := { id, version, links := Dict.ofList [("template", "/t")] }

/-- The app and its template versions. The record of the last one names another version. -/
def kioskVersions : Store :=
  Store.insertAll .app [kiosk] (Store.insertAll .templateVersion
    [kioskVersion "kiosk-1.0.0" "1.0.0", kioskVersion "kiosk-1.1.0" "1.1.0", kioskVersion "kiosk-1.2.0" "1.2"]
    (Store.insertLink "/t" (Kind.toJson .template kioskTemplate) {}))

theorem numberedBy_kioskTemplate : NumberedBy "kiosk-" kioskTemplate := by
  intro version link h
  have hmem : (version, link) ∈ kioskTemplate.versionLinks.toList := Dict.get?_eq_some_iff.1 h
  have hlinks : kioskTemplate.versionLinks.toList = [("", "/v/kiosk-"), ("1.0.0", "/v/kiosk-1.0.0"),
      ("1.1.0", "https://h/v/kiosk-1.1.0?x=/y"), ("1.2.0", "/v/kiosk-1.2.0")] := by cbv
  simp only [hlinks, List.mem_cons, Prod.mk.injEq, List.not_mem_nil, or_false] at hmem
  rw [← TemplateVersion.idOfLink_eq_iff]
  rcases hmem with ⟨rfl, rfl⟩ | ⟨rfl, rfl⟩ | ⟨rfl, rfl⟩ | ⟨rfl, rfl⟩ <;> cbv

/-- An upgrade to the second version and back to the first. -/
theorem upgrade_takes_selected_kiosk :
    (∃ o t' new, (kiosk.upgrade ∅ "1.1.0" []).run ({ client := ⟨kioskVersions, []⟩ } : Session (Traced Store)) =
      (o, t') ∧
      t'.client.calls = new ++ [] ∧ (∃ b, Call.update .app b ∈ new) ∧
      ∀ b : App, Call.update .app b ∈ new → select kioskTemplate (some "1.1.0") "kiosk" = .ok b.templateVersionId) ∧
    replaceVersion (replaceVersion "kiosk-1.0" "1.0" "") "" "1.1.0" = replaceVersion "kiosk-1.0" "1.0" "1.1.0" ∧
    ∃ a, Upgrades "kiosk-" kiosk ["1.1.0", "1.0.0"] a ∧ a.templateVersionId = "kiosk-" ++ "1.0.0" := by
  obtain ⟨hselected, hreplace, hchain⟩ := upgrade_takes_selected
  have hoffered : "1.1.0" ∈ kioskTemplate.versionLinks := Dict.mem_iff_exists.2 ⟨"https://h/v/kiosk-1.1.0?x=/y", by cbv⟩
  refine ⟨?_, hreplace _ _ _ _, ?_⟩
  · have hfetch : (Client.byId .templateVersion kiosk.templateVersionId).run
        ({ client := ⟨kioskVersions, []⟩ } : Session (Traced Store)) = (.ok (kioskVersion "kiosk-1.0.0" "1.0.0"), _) :=
      Prod.ext (by cbv) rfl
    have hrun : (kiosk.upgrade ∅ "1.1.0" []).run
        ({ client := ⟨kioskVersions, []⟩ } : Session (Traced Store)) = (.ok _, _) :=
      Prod.ext (by cbv) rfl
    obtain ⟨new, hcalls, hsent, htakes⟩ := hselected "kiosk-" kioskTemplate "1.1.0" "kiosk" kiosk ∅ [] _ _ _
      numberedBy_kioskTemplate hoffered (by decide) (Numbered.of_run rfl hfetch (by decide)) hrun
    exact ⟨_, _, new, hrun, hcalls, hsent rfl, htakes⟩
  · have hfetch : (Client.byId .templateVersion "kiosk-1.0.0").run ({ client := kioskVersions } : Session Store) =
        (.ok (kioskVersion "kiosk-1.0.0" "1.0.0"), _) := Prod.ext (by cbv) rfl
    have hrun : (kiosk.upgrade ∅ "1.1.0" []).run ({ client := kioskVersions } : Session Store) =
        (.ok { kiosk with answers := [], templateVersionId := "kiosk-1.1.0" }, _) := Prod.ext (by cbv) rfl
    have hfetch' : (Client.byId .templateVersion "kiosk-1.1.0").run ({ client := kioskVersions } : Session Store) =
        (.ok (kioskVersion "kiosk-1.1.0" "1.1.0"), _) := Prod.ext (by cbv) rfl
    have hrun' : (({ kiosk with answers := [], templateVersionId := "kiosk-1.1.0" } : App).upgrade ∅ "1.0.0" []).run
        ({ client := kioskVersions } : Session Store) = (.ok { kiosk with answers := [] }, _) := Prod.ext (by cbv) rfl
    have hfirst : Upgrades "kiosk-" kiosk ["1.1.0"] _ := .next .none (.of_run rfl hfetch (by decide)) hrun
    have hsecond : Upgrades "kiosk-" kiosk ["1.1.0", "1.0.0"] _ := .next hfirst (.of_run rfl hfetch' (by decide)) hrun'
    exact ⟨_, hsecond, hchain "kiosk-" kiosk _ _ hsecond "1.0.0" rfl⟩

/-- To an upgrade the empty version is one like any other, for an install it means the default version. And an app whose
template version is not numbered moves off the base. -/
theorem empty_version_selects_default :
    (NumberedBy "kiosk-" kioskTemplate ∧ "" ∈ kioskTemplate.versionLinks ∧
      kiosk.Numbered "kiosk-" ∅ ({ client := kioskVersions } : Session Store) ∧
      (∃ a t', (kiosk.upgrade ∅ "" []).run ({ client := kioskVersions } : Session Store) = (.ok a, t') ∧
        a.templateVersionId = "kiosk-") ∧
      select kioskTemplate (some "") "kiosk" = .ok "kiosk-1.0.0") ∧
    ∃ a b t' t'', (kiosk.upgrade ∅ "1.2.0" []).run ({ client := kioskVersions } : Session Store) = (.ok a, t') ∧
      (a.upgrade ∅ "1.1.0" []).run t' = (.ok b, t'') ∧ b.templateVersionId = "kiosk-1.2.01.1.0" := by
  have hfetch : (Client.byId .templateVersion "kiosk-1.0.0").run ({ client := kioskVersions } : Session Store) =
      (.ok (kioskVersion "kiosk-1.0.0" "1.0.0"), _) := Prod.ext (by cbv) rfl
  have hempty : (kiosk.upgrade ∅ "" []).run ({ client := kioskVersions } : Session Store) =
      (.ok { kiosk with answers := [], templateVersionId := "kiosk-" }, _) := Prod.ext (by cbv) rfl
  have hfirst : (kiosk.upgrade ∅ "1.2.0" []).run ({ client := kioskVersions } : Session Store) =
      (.ok { kiosk with answers := [], templateVersionId := "kiosk-1.2.0" }, _) := Prod.ext (by cbv) rfl
  have hsecond : (({ kiosk with answers := [], templateVersionId := "kiosk-1.2.0" } : App).upgrade ∅ "1.1.0" []).run
      ((kiosk.upgrade ∅ "1.2.0" []).run ({ client := kioskVersions } : Session Store)).2 =
        (.ok { kiosk with answers := [], templateVersionId := "kiosk-1.2.01.1.0" }, _) := Prod.ext (by cbv) rfl
  exact ⟨⟨numberedBy_kioskTemplate, Dict.mem_iff_exists.2 ⟨"/v/kiosk-", by cbv⟩, Numbered.of_run rfl hfetch (by decide),
    ⟨_, _, hempty, rfl⟩, by cbv⟩, _, _, _, _, hfirst, hsecond, rfl⟩

end App

end MultiCluster
