/-
The versions that are shown for an app: those of the template that the app's template version links to, which the
records and the links of a store decide (`Store.appVersions`). An upgrade that is asked for the versions prints these,
and fails where there are none (`run_upgrade_shows`, `shown_of_run_upgrade`).
-/
import MultiCluster.Proofs.Command.Footprint
import MultiCluster.Proofs.Lifecycle.Proposal
namespace MultiCluster

namespace Store

variable {s t : Store}

/-- The link of that name. -/
def linked (links : Dict String) (name owner : String) : Except CommandFault String :=
  (links.get? name).elim (.error (.command (owner ++ " has no '" ++ name ++ "' link"))) .ok

/-- The versions that are shown for an app. -/
def shownVersions (a : App) (s : Store) : Except CommandFault (List VersionEntry) := do
  let current : TemplateVersion ← (s.stored .templateVersion a.templateVersionId).mapError .api
  let url ← linked current.links "template" ("template version '" ++ current.id ++ "'")
  let template : Template ← (s.templateAt url).mapError .api
  (sortVersions template.versionLinks.keys current.version).mapError .api

theorem shownVersions_congr (h : s.Kept t) (a : App) : t.shownVersions a = s.shownVersions a := by
  simp only [shownVersions, h.stored_eq, templateAt_congr h.links]

/-- The versions that are shown for the app that a reference names. -/
def appVersions (reference : String) (s : Store) : Except CommandFault (List VersionEntry) := do
  let a ← (s.lookedUp .app reference ∅).mapError .api
  s.shownVersions a

theorem shownVersions_eq_ok {a : App} {entries : List VersionEntry} (h : s.shownVersions a = .ok entries) :
    ∃ current : TemplateVersion, ∃ url, ∃ template : Template,
      s.get? .templateVersion a.templateVersionId = some current ∧
      current.links.get? "template" = some url ∧ s.templateAt url = .ok template ∧
      sortVersions template.versionLinks.keys current.version = .ok entries := by
  obtain ⟨current, hcurrent, h⟩ := bind_eq_ok h
  obtain ⟨url, hurl, h⟩ := bind_eq_ok h
  obtain ⟨template, htemplate, h⟩ := bind_eq_ok h
  refine ⟨current, url, template, ?_, ?_, mapError_eq_ok.1 htemplate, mapError_eq_ok.1 h⟩
  · exact stored_eq_ok.1 (mapError_eq_ok.1 hcurrent)
  · unfold linked at hurl
    cases hlink : current.links.get? "template" with
    | none =>
      rw [hlink] at hurl
      cases hurl
    | some url' =>
      rw [hlink] at hurl
      cases hurl
      rfl

end Store

namespace Console

variable {α : Type} {c : Console Store} {s : Store}

theorem run_remote_byId {kind : Kind} {id' : String} (h : c.session.client.scriptOf kind id' = []) :
    ∃ c', (remote (Client.byId kind id')).run c = ((c.session.client.stored kind id').mapError .api, c') ∧
    Quiet c c' := by
  have hquiet := quiet_byId kind id' c
  rw [run_remote, Session.run_byId h] at hquiet ⊢
  exact ⟨_, rfl, hquiet⟩

theorem run_link (links : Dict String) (name owner : String) (c : Console Store) :
    (link links name owner).run c = (Store.linked links name owner, c) := by
  unfold link Store.linked
  cases links.get? name <;> rfl

section Upgrade

variable {σ : Type} [Client σ] {files : Files} {format : Format} {r : UpgradeRequest}

/-- An upgrade to a version. -/
theorem upgrade_to {version : String} (hv : r.showVersions = false) (hversion : r.version = some version) :
    (upgrade files format r : Attempt CommandFault (Console σ) Unit) = (do
      let a ← findApp r.app
      let flat ← Attempt.ofExcept (AnswerSources.collect files (FlatAnswers.ofAnswers a.answers) r.sources)
      let updated ← remote (App.upgrade a flat version r.targets)
      done format ("Upgraded " ++ updated.name ++ " to " ++ version)) := by
  unfold upgrade
  simp only [hv, hversion, Bool.false_eq_true, if_false]

/-- An upgrade that is only asked for the versions. -/
theorem upgrade_shows (hv : r.showVersions = true) :
    (upgrade files format r : Attempt CommandFault (Console σ) Unit) =
      findApp r.app >>= versionsOf >>= fun entries => print format (.versions entries) := by
  unfold upgrade
  simp only [hv, if_true, bind_assoc]

end Upgrade

theorem run_versionsOf (a : App) (h : c.session.client.Unscripted .templateVersion) :
    ∃ c', (versionsOf a).run c = (c.session.client.shownVersions a, c') ∧ Quiet c c' := by
  refine Attempt.run_bind_of_known (run_remote_byId (h a.templateVersionId)) fun current c₁ h₁ => ?_
  refine Attempt.run_bind_of_known ⟨c₁, run_link _ _ _ c₁, h₁⟩ fun url c₂ h₂ => ?_
  refine Attempt.run_bind_of_known ⟨c₂, ?_, h₂⟩ fun template c₃ h₃ => ⟨c₃, rfl, h₃⟩
  rw [run_remote, Session.run_followTemplate, Store.templateAt_congr h₂.kept.links]

section Shown

variable {files : Files} {format : Format} {r : UpgradeRequest} {c' : Console Store} (hk : s.Kept c.session.client)
  (hu : s.Unscripted .app) (htv : s.Unscripted .templateVersion)
include hk hu htv

theorem run_appVersions (reference : String) :
    ∃ c', (findApp reference >>= versionsOf).run c = (s.appVersions reference, c') ∧ Quiet c c' := by
  obtain ⟨u, hlookup, hkept⟩ := run_findApp hk hu reference
  refine Attempt.run_bind_of_known ⟨_, hlookup, ⟨hkept, rfl⟩⟩ fun a c₁ h₁ => ?_
  have hk₁ := hk.trans h₁.kept
  obtain ⟨c₂, hversions, hquiet⟩ := run_versionsOf a (hk₁.unscripted _ htv)
  rw [Store.shownVersions_congr hk₁] at hversions
  exact ⟨c₂, hversions, IsTrans.trans _ _ _ h₁ hquiet⟩

variable (hv : r.showVersions = true)
include hv

/-- The versions are printed, where there are any to show. -/
theorem run_upgrade_shows {entries : List VersionEntry} (h : s.appVersions r.app = .ok entries) :
    ∃ c', (upgrade files format r).run c = (.ok (), c') ∧ s.Kept c'.session.client ∧
      c'.output = c.output ++ Report.render format (.versions entries) := by
  obtain ⟨c₁, hversions, hquiet⟩ := run_appVersions hk hu htv r.app
  rw [h] at hversions
  rw [upgrade_shows hv, Attempt.run_bind_ok hversions]
  exact ⟨_, rfl, hk.trans hquiet.kept, congrArg (· ++ _) hquiet.output⟩

theorem shown_of_run_upgrade (h : (upgrade files format r).run c = (.ok (), c')) :
    ∃ entries, s.appVersions r.app = .ok entries ∧ s.Kept c'.session.client ∧
      c'.output = c.output ++ Report.render format (.versions entries) := by
  rw [upgrade_shows hv] at h
  obtain ⟨entries, c₁, hversions, h⟩ := Attempt.run_bind_eq_ok_iff.1 h
  cases h
  obtain ⟨c₂, hknown, hquiet⟩ := run_appVersions hk hu htv r.app
  obtain ⟨hentries, rfl⟩ := Prod.mk.inj (hknown.symm.trans hversions)
  exact ⟨entries, hentries, hk.trans hquiet.kept, congrArg (· ++ _) hquiet.output⟩

end Shown

end Console

end MultiCluster
