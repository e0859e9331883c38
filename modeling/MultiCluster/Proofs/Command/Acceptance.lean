/-
The versions that are shown are those that are accepted. An upgrade that shows the versions for an app lists the
versions of the template that the app's template version links to, and an upgrade to a version checks it against that
template; `showTemplate` lists those of the template that a reference names, and an install takes the link that it has
for the version. Nothing else that they do fails because of a version (`Fault.Unversioned`), so a version is refused
just if it is not in the list (`shown_versions_accepted`). What is listed is tied to the template itself
(`Store.OfferedForApp`, `Store.OfferedForTemplate`) and to the text that is printed (`Format.ShowsVersions`).
-/
import MultiCluster.Proofs.Command.Versions
import MultiCluster.Proofs.Faults
import MultiCluster.Proofs.Report.Listing
import MultiCluster.Proofs.Version.Sorting
namespace MultiCluster

/-! ## What is listed -/

/-- Sorting versions neither adds nor loses any. -/
theorem mem_sortVersions {versions : List String} {current : String} {entries : List VersionEntry}
    (h : sortVersions versions current = .ok entries) {v : String} :
    v ∈ entries.map VersionEntry.version ↔ v ∈ versions :=
  (sortVersions_sorted h).texts.mem_iff

namespace Store

/-- The entries are the versions of the template that the app's template version links to, of the app that the
reference names. -/
def OfferedForApp (s : Store) (reference : String) (entries : List VersionEntry) : Prop :=
  ∃ (a : App) (current : TemplateVersion) (url : String) (template : Template),
    s.lookedUp .app reference ∅ = .ok a ∧ s.get? .templateVersion a.templateVersionId = some current ∧
      current.links.get? "template" = some url ∧ s.templateAt url = .ok template ∧
      sortVersions template.versionLinks.keys current.version = .ok entries

/-- The entries are the versions of the template that the reference names. -/
def OfferedForTemplate (s : Store) (reference : String) (entries : List VersionEntry) : Prop :=
  ∃ template : Template, s.lookedUp .template reference ∅ = .ok template ∧
    sortVersions template.versionLinks.keys template.defaultVersion = .ok entries

theorem offeredForApp_of_appVersions {s : Store} {reference : String} {entries : List VersionEntry}
    (h : s.appVersions reference = .ok entries) : s.OfferedForApp reference entries := by
  obtain ⟨a, happ, h⟩ := bind_eq_ok h
  obtain ⟨current, url, template, hcurrent, hurl, htemplate, hsort⟩ := shownVersions_eq_ok h
  exact ⟨a, current, url, template, mapError_eq_ok.1 happ, hcurrent, hurl, htemplate, hsort⟩

end Store

/-! ## Upgrades -/

namespace App

variable {app : App} {flat : FlatAnswers} {t t₁ : Session Store} {answers : List Answer} {current : TemplateVersion}

/-- Once the answers are made, an upgrade fails because of the version just if the check does. -/
theorem run_upgrade_checked (hanswers : (FlatAnswers.toAnswers flat).run t = (.ok answers, t₁))
    (hu : t.client.Unscripted .templateVersion)
    (hcurrent : t.client.get? .templateVersion app.templateVersionId = some current) (version : String)
    (specifiers : List String) :
    (∀ e, t.client.checked current version = .error e → ((app.upgrade flat version specifiers).run t).1 = .error e) ∧
      (t.client.checked current version = .ok () →
        FailsOnly Fault.Unversioned ((app.upgrade flat version specifiers).run t).1) := by
  have hkept : t.client.Kept t₁.client := (FlatAnswers.keeps_toAnswers Store.readsKeep flat).of_run hanswers
  have hfetch : (Client.byId .templateVersion app.templateVersionId).run t₁ = _ :=
    Session.run_byId (hkept.unscripted _ hu app.templateVersionId)
  rw [hkept.stored_eq, Store.stored_eq_ok.2 hcurrent] at hfetch
  have hcheck := run_checkVersion current version
    { t₁ with client := t₁.client.countFetch .templateVersion app.templateVersionId }
  rw [Store.checked_congr (hkept.trans (Store.kept_countFetch ..)).links] at hcheck
  have h := Store.answersUnversioned
  unfold upgrade
  rw [Attempt.run_bind_ok hanswers, Attempt.run_bind_ok hfetch]
  constructor
  · intro e he
    rw [he] at hcheck
    rw [Attempt.run_bind_error hcheck]
  · intro hok
    rw [hok] at hcheck
    rw [Attempt.run_bind_ok hcheck]
    refine Attempt.FailsOnly.bind (h.resolveTargets specifiers) (fun projectIds => ?_) _
    exact h.session (.update .app _)

end App

namespace Console

/-- The command failed because a template does not offer a version. -/
def RefusedVersion (o : Except CommandFault Unit) : Prop :=
  ∃ version template, o = .error (.api (.invalidVersion version template))

theorem not_refused_of_unversioned {o : Except CommandFault Unit} (h : FailsOnly CommandFault.Unversioned o) :
    ¬ RefusedVersion o := by
  rintro ⟨version, template, rfl⟩
  exact h _ rfl

/-- A version is refused in just this case, and then nothing was changed. -/
structure RefusesJust (c : Console Store) (run : Except CommandFault Unit × Console Store) (refused : Prop) : Prop where
  iff : RefusedVersion run.1 ↔ refused
  unchanged : RefusedVersion run.1 →
    run.2.session.client.records = c.session.client.records ∧ run.2.session.client.log = c.session.client.log

theorem RefusesJust.of_unversioned {c : Console Store} {run : Except CommandFault Unit × Console Store} {refused : Prop}
    (h : FailsOnly CommandFault.Unversioned run.1) (hrefused : ¬ refused) : RefusesJust c run refused where
  iff := iff_of_false (not_refused_of_unversioned h) hrefused
  unchanged hrun := absurd hrun (not_refused_of_unversioned h)

theorem RefusesJust.of_refused {c c' : Console Store} {version template : String} {refused : Prop}
    (hquiet : c.session.client.Kept c'.session.client) (hrefused : refused) :
    RefusesJust c (.error (.api (.invalidVersion version template)), c') refused where
  iff := iff_of_true ⟨version, template, rfl⟩ hrefused
  unchanged _ := ⟨hquiet.records, hquiet.log⟩

/-- Work with the server that is only followed by a confirmation. -/
theorem run_remote_then {α : Type} (x : Attempt Fault (Session Store) α) (format : Format) (text : α → String)
    (c : Console Store) :
    ((remote x >>= fun a => done format (text a)).run c).1 = ((x.run c.session).1.mapError .api).map fun _ => () := by
  rw [Attempt.run_bind, run_remote]
  rcases x.run c.session with ⟨e | a, t⟩ <;> rfl

section Upgrade

variable {files : Files} {format : Format} {r : UpgradeRequest} {version : String} {s : Store} {c : Console Store}

/-- The sources of the answers can be read, and the scopes of the answers are there. -/
def Answerable (files : Files) (r : UpgradeRequest) (c : Console Store) : Prop :=
  ∀ (a : App) (c₁ : Console Store), (findApp r.app).run c = (.ok a, c₁) →
    ∃ flat answers, AnswerSources.collect files (FlatAnswers.ofAnswers a.answers) r.sources = .ok flat ∧
      ((FlatAnswers.toAnswers flat).run c₁.session).1 = .ok answers

/-- A version is listed just if the check of the app's template version lets it pass. -/
theorem checked_of_appVersions {entries : List VersionEntry} (h : s.appVersions r.app = .ok entries)
    (version : String) :
    ∃ a current, s.lookedUp .app r.app ∅ = .ok a ∧ s.get? .templateVersion (App.templateVersionId a) = some current ∧
      (version ∈ entries.map VersionEntry.version → s.checked current version = .ok ()) ∧
      (version ∉ entries.map VersionEntry.version →
        ∃ name, s.checked current version = .error (.invalidVersion version name)) := by
  obtain ⟨a, current, url, template, happ, hcurrent, hurl, htemplate, hsort⟩ := Store.offeredForApp_of_appVersions h
  have hlisted : version ∈ entries.map VersionEntry.version ↔ template.versionLinks.contains version = true :=
    (mem_sortVersions hsort).trans Dict.mem_keys
  have hchecked : s.checked current version =
      if template.versionLinks.contains version then .ok () else .error (.invalidVersion version template.name) := by
    rw [Store.checked, hurl]
    show (do let template ← s.templateAt url; _) = _
    rw [htemplate]
    rfl
  refine ⟨a, current, happ, hcurrent, fun hmem => ?_, fun hmem => ⟨template.name, ?_⟩⟩
  · rw [hchecked, if_pos (hlisted.1 hmem)]
  · rw [hchecked, if_neg fun hoffered => hmem (hlisted.2 hoffered)]

theorem upgrade_refuses (hk : s.Kept c.session.client) (hu : s.Unscripted .app) (htv : s.Unscripted .templateVersion)
    (hv : r.showVersions = false) (hversion : r.version = some version) (hanswers : Answerable files r c)
    {entries : List VersionEntry} (hshown : s.appVersions r.app = .ok entries) :
    RefusesJust c ((upgrade files format r).run c) (version ∉ entries.map VersionEntry.version) := by
  obtain ⟨a, current, happ, hcurrent, hpass, hrefuse⟩ := checked_of_appVersions hshown version
  obtain ⟨c₁, hfind, hk₁⟩ : ∃ c₁, (findApp r.app).run c = (.ok a, c₁) ∧ s.Kept c₁.session.client := by
    obtain ⟨u, hfind, hkept⟩ := run_findApp hk hu r.app
    rw [happ] at hfind
    exact ⟨_, hfind, hk.trans hkept⟩
  obtain ⟨flat, answers, hcollect, hmade⟩ := hanswers a c₁ hfind
  have hstored : c₁.session.client.get? .templateVersion (App.templateVersionId a) = some current := by
    rw [hk₁.get?_eq, hcurrent]
  obtain ⟨herror, hok⟩ := App.run_upgrade_checked (Prod.ext hmade rfl) (hk₁.unscripted _ htv) hstored version r.targets
  rw [Store.checked_congr hk₁.links] at herror hok
  have hrun : ((upgrade files format r).run c).1 =
      (((App.upgrade a flat version r.targets).run c₁.session).1.mapError .api).map fun _ => () := by
    have hcollects :
        (Attempt.ofExcept (AnswerSources.collect files (FlatAnswers.ofAnswers (App.answers a)) r.sources)).run c₁ =
        (.ok flat, c₁) := by rw [hcollect, Attempt.run_ofExcept]
    rw [upgrade_to hv hversion, Attempt.run_bind_ok hfind, Attempt.run_bind_ok hcollects, run_remote_then]
  by_cases hmem : version ∈ entries.map VersionEntry.version
  · refine .of_unversioned ?_ (not_not_intro hmem)
    rw [hrun]
    exact ((hok (hpass hmem)).mapError (f := CommandFault.api) fun _ he => he).map _
  · obtain ⟨name, hname⟩ := hrefuse hmem
    have hfail : ((upgrade files format r).run c).1 = .error (.api (.invalidVersion version name)) := by
      rw [hrun, herror _ hname]
      rfl
    have hquiet := keepsFailing_upgrade files r c _ _ (Prod.ext hfail rfl)
    rw [← Prod.eta ((upgrade files format r).run c), hfail]
    exact .of_refused hquiet.kept hmem

end Upgrade

/-! ## Installs -/

section Install

variable {files : Files} {currentProject : Option String} {format : Format} {r : InstallRequest}
  {version : String} {s : Store} {c : Console Store}

/-- What an install does once it has chosen the template version. -/
def installChosen {σ : Type} [Client σ] (files : Files) (currentProject : Option String) (format : Format)
    (r : InstallRequest) (templateVersionId : String) : Attempt CommandFault (Console σ) Unit := do
  let flat ← gatherAnswers files r templateVersionId
  let projectIds ← installTargets currentProject r.targets
  let answers ← remote flat.toAnswers
  let a : App := { name := r.name, templateVersionId, targets := App.targetsOf projectIds, answers }
  let installed ← remote (App.install a { timeout := ⟨r.timeout, 0⟩ })
  done format ("Installed " ++ installed.name ++ " (" ++ installed.id ++ ")")

theorem install_eq {σ : Type} [Client σ] :
    (install files currentProject format r : Attempt CommandFault (Console σ) Unit) =
    chooseVersion r >>= installChosen files currentProject format r := by
  unfold install installChosen
  simp only [newApp_eq, bind_assoc, pure_bind]

/-- None of it fails because of the version. -/
theorem installChosen_fails (templateVersionId : String) :
    (installChosen files currentProject format r templateVersionId : Attempt CommandFault
      (Console Store) Unit).FailsOnly
      CommandFault.Unversioned := by
  have h := Store.answersUnversioned
  have hremote {α : Type} {x : Attempt Fault (Session Store) α} (hx : x.FailsOnly Fault.Unversioned) :
      (remote x).FailsOnly CommandFault.Unversioned := (hx.within _ _).mapError fun _ he => he
  have hgather : (gatherAnswers files r templateVersionId : Attempt CommandFault (Console Store) _).FailsOnly
      CommandFault.Unversioned := by
    refine .bind (hremote (h.session (.byId .templateVersion templateVersionId))) fun templateVersion => ?_
    refine .bind (.ofExcept ?_) fun collected => ?_
    · exact (AnswerSources.collect_fails files ∅ r.sources).mono fun _ he => he.unversioned
    · intro c
      rw [run_interview]
      exact ((Interview.answerAll_fails _ _ _).mono fun _ he => he.unversioned).map _
  have htargets : (installTargets currentProject r.targets : Attempt CommandFault (Console Store) _).FailsOnly
      CommandFault.Unversioned := by
    refine (hremote (h.resolveTargets r.targets)).bind fun ids => ?_
    split
    · exact .pure _
    · exact .fail trivial
    · exact .pure _
  refine hgather.bind fun flat => htargets.bind fun projectIds => (hremote (h.toAnswers flat)).bind fun answers => ?_
  exact (hremote (h.session.install _ _)).bind fun installed => .of_ok fun _ => ⟨(), rfl⟩

/-- The choice of a version is decided by the template that the reference names. -/
theorem run_chooseVersion_of_lookedUp (hk : s.Kept c.session.client) (hu : s.Unscripted .template)
    (hversion : r.version = some version) (hne : version ≠ "") {template : Template}
    (htemplate : s.lookedUp .template r.template ∅ = .ok template) :
    ∃ u, (chooseVersion r).run c =
        ((template.versionLinks.get? version).elim (.error (.api (.invalidVersion version r.template)))
          fun link => .ok (TemplateVersion.idOfLink link), { c with session := { c.session with client := u } }) ∧
      c.session.client.Kept u := by
  obtain ⟨u, hlookup, hkept⟩ := run_remote_lookup hk hu r.template ∅
  rw [htemplate] at hlookup
  have hwanted : r.wanted template = version := by simp [InstallRequest.wanted, hversion, hne]
  refine ⟨u, ?_, hkept⟩
  unfold chooseVersion
  rw [Attempt.run_bind_ok hlookup, select_eq, hwanted]
  cases template.versionLinks.get? version <;> rfl

theorem install_refuses (hk : s.Kept c.session.client) (hu : s.Unscripted .template)
    (hversion : r.version = some version) (hne : version ≠ "") {template : Template}
    (htemplate : s.lookedUp .template r.template ∅ = .ok template) {entries : List VersionEntry}
    (hshown : sortVersions template.versionLinks.keys template.defaultVersion = .ok entries) :
    RefusesJust c ((install files currentProject format r).run c) (version ∉ entries.map VersionEntry.version) := by
  have hlisted : version ∈ entries.map VersionEntry.version ↔ version ∈ template.versionLinks :=
    (mem_sortVersions hshown).trans Dict.mem_keys
  obtain ⟨u, hchoose, hkept⟩ := run_chooseVersion_of_lookedUp hk hu hversion hne htemplate
  rw [install_eq]
  cases hlink : template.versionLinks.get? version with
  | none =>
    rw [hlink] at hchoose
    rw [Attempt.run_bind_error hchoose]
    refine .of_refused hkept ?_
    rw [hlisted, Dict.mem_iff_exists, hlink]
    exact nofun
  | some link =>
    rw [hlink] at hchoose
    rw [Attempt.run_bind_ok hchoose]
    exact .of_unversioned (installChosen_fails _ _) (not_not_intro (hlisted.2 (Dict.mem_iff_exists.2 ⟨link, hlink⟩)))

/-- The versions that are shown are those of the template that the reference names. -/
theorem shown_of_run_showTemplate (hk : s.Kept c.session.client) (hu : s.Unscripted .template) {reference : String}
    {c' : Console Store} (h : (showTemplate format reference).run c = (.ok (), c')) :
    ∃ entries, s.OfferedForTemplate reference entries ∧
      c'.output = c.output ++ Report.render format (.versions entries) := by
  obtain ⟨template, c₁, hlookup, h⟩ := Attempt.run_bind_eq_ok_iff.1 h
  obtain ⟨entries, c₂, hsort, h⟩ := Attempt.run_bind_eq_ok_iff.1 h
  cases h
  obtain ⟨hsorted, rfl⟩ := Prod.mk.inj hsort
  obtain ⟨u, hknown, -⟩ := run_remote_lookup hk hu reference ∅
  obtain ⟨htemplate, rfl⟩ := Prod.mk.inj (hknown.symm.trans hlookup)
  exact ⟨entries, ⟨template, mapError_eq_ok.1 htemplate, mapError_eq_ok.1 hsorted⟩, rfl⟩

end Install

/-- Where apps, templates and template versions are fetched without a script, an upgrade to a version whose answers can
be made is refused just if the version is not among those that are shown for the app, and an install of a version that
is named just if it is not among those that are shown for the template. Nothing is changed by what is refused. -/
theorem shown_versions_accepted {s : Store} (happ : s.Unscripted .app) (htemplate : s.Unscripted .template)
    (hversion : s.Unscripted .templateVersion) :
    (∀ (files : Files) (format : Format) (r : UpgradeRequest) (c c' : Console Store), s.Kept c.session.client →
      r.showVersions = true → (upgrade files format r).run c = (.ok (), c') →
      ∃ entries text, s.OfferedForApp r.app entries ∧ c'.output = c.output ++ text ∧ format.ShowsVersions entries text ∧
        ∀ (files' : Files) (format' : Format) (r' : UpgradeRequest) (c₂ : Console Store) (version : String),
          s.Kept c₂.session.client → r'.app = r.app → r'.showVersions = false → r'.version = some version →
          Answerable files' r' c₂ →
          RefusesJust c₂ ((upgrade files' format' r').run c₂) (version ∉ entries.map VersionEntry.version)) ∧
      ∀ (format : Format) (reference : String) (c c' : Console Store), s.Kept c.session.client →
        (showTemplate format reference).run c = (.ok (), c') →
        ∃ entries text, s.OfferedForTemplate reference entries ∧ c'.output = c.output ++ text ∧
          format.ShowsVersions entries text ∧
          ∀ (files : Files) (currentProject : Option String) (format' : Format) (r : InstallRequest)
            (c₂ : Console Store) (version : String), s.Kept c₂.session.client → r.template = reference →
            r.version = some version → version ≠ "" →
            RefusesJust c₂ ((install files currentProject format' r).run c₂)
              (version ∉ entries.map VersionEntry.version) := by
  constructor
  · intro files format r c c' hk hv hrun
    obtain ⟨entries, hentries, -, houtput⟩ := shown_of_run_upgrade hk happ hversion hv hrun
    refine ⟨entries, _, Store.offeredForApp_of_appVersions hentries, houtput,
      Report.showsVersions_render format entries, fun files' format' r' c₂ version hk₂ hsame hv' hwanted hanswers => ?_⟩
    rw [← hsame] at hentries
    exact upgrade_refuses hk₂ happ hversion hv' hwanted hanswers hentries
  · intro format reference c c' hk hrun
    obtain ⟨entries, ⟨template, hlookup, hsort⟩, houtput⟩ := shown_of_run_showTemplate hk htemplate hrun
    refine ⟨entries, _, ⟨template, hlookup, hsort⟩, houtput, Report.showsVersions_render format entries,
      fun files currentProject format' r c₂ version hk₂ hsame hwanted hne => ?_⟩
    rw [← hsame] at hlookup
    exact install_refuses hk₂ htemplate hwanted hne hlookup hsort

/-- A template that offers two versions. -/
def kioskTemplate : Template where
  id := "kiosk"
  name := "kiosk"
  defaultVersion := "1.0.0"
  versionLinks := Dict.ofList [("1.0.0", "/v/kiosk-1.0.0"), ("1.1.0", "/v/kiosk-1.1.0")]

/-- The app and the template that it is of. -/
def kioskShelf : Store := App.kioskStore.insert .template kioskTemplate

def atKioskShelf : Console Store := { session := { client := kioskShelf } }

def showKiosk : UpgradeRequest := { app := "kiosk", showVersions := true }

def upgradeKiosk (version : String) : UpgradeRequest := { app := "kiosk", version := some version }

def installKiosk (version : String) : InstallRequest := { template := "kiosk", name := "till", version := some version }

theorem answerable_upgradeKiosk (version : String) : Answerable noFiles (upgradeKiosk version) atKioskShelf := by
  intro a c₁ hfind
  have hfound : (findApp "kiosk").run atKioskShelf = (.ok App.kiosk, _) := Prod.ext (by cbv) rfl
  cases hfound.symm.trans hfind
  exact ⟨FlatAnswers.ofAnswers App.kiosk.answers, App.kiosk.answers, by cbv, by cbv⟩

/-- The versions that are shown, the one of the app with a star. -/
theorem sortVersions_kiosk :
    sortVersions ["1.0.0", "1.1.0"] "1.0.0" = .ok [⟨"1.0.0", true⟩, ⟨"1.1.0", false⟩] := by
  -- reading versions takes the kernel, sorting them does not
  have hread : ["1.0.0", "1.1.0"].mapM readTagged =
      .ok [(⟨1, 0, 0, "", ""⟩, "1.0.0"), (⟨1, 1, 0, "", ""⟩, "1.1.0")] := by decide +kernel
  show (["1.0.0", "1.1.0"].mapM readTagged >>= _) = _
  rw [hread]
  cbv

theorem output_showKiosk :
    ((upgrade noFiles .table showKiosk).run atKioskShelf).2.output =
      "CURRENT  VERSION\n*        1.0.0\n         1.1.0\n" := by
  have hkept : kioskShelf.Kept atKioskShelf.session.client := .refl kioskShelf
  have happ : kioskShelf.lookedUp .app "kiosk" ∅ = .ok App.kiosk := by cbv
  have hoffered : kioskShelf.appVersions showKiosk.app = .ok [⟨"1.0.0", true⟩, ⟨"1.1.0", false⟩] := by
    rw [Store.appVersions, show showKiosk.app = "kiosk" from rfl, happ]
    show (sortVersions ["1.0.0", "1.1.0"] "1.0.0").mapError CommandFault.api = _
    rw [sortVersions_kiosk]
    rfl
  obtain ⟨c', hrun, -, houtput⟩ := @run_upgrade_shows atKioskShelf kioskShelf noFiles .table showKiosk hkept
    (Store.unscripted_ofRecords .app) (Store.unscripted_ofRecords .templateVersion) rfl _ hoffered
  rw [hrun, houtput]
  cbv

theorem output_showTemplate_kiosk :
    ((showTemplate .json "kiosk").run atKioskShelf).2.output =
      "\x7b\n  \"versions\": [\n    \x7b\n      \"version\": \"1.0.0\",\n      \"current\": true\n    \x7d,\n" ++
        "    \x7b\n      \"version\": \"1.1.0\",\n      \"current\": false\n    \x7d\n  ]\n\x7d\n" := by
  have hlookup : (remote (Client.lookup .template "kiosk" ∅)).run atKioskShelf = (.ok kioskTemplate, _) :=
    Prod.ext (by cbv) rfl
  have hsort : sortVersions kioskTemplate.versionLinks.keys kioskTemplate.defaultVersion = _ := sortVersions_kiosk
  rw [showTemplate, Attempt.run_bind_ok hlookup, hsort]
  cbv

/-- A version that the app is moved to is shown, and one that an install takes before it finds that it has no target.
One that both refuse is not. -/
theorem shown_versions_accepted_kiosk :
    (∃ c' entries, (upgrade noFiles .table showKiosk).run atKioskShelf = (.ok (), c') ∧
      c'.output = "CURRENT  VERSION\n*        1.0.0\n         1.1.0\n" ∧ Format.table.ShowsVersions entries c'.output ∧
      "1.1.0" ∈ entries.map VersionEntry.version ∧ "2.0.0" ∉ entries.map VersionEntry.version) ∧
      ∃ c' entries, (showTemplate .json "kiosk").run atKioskShelf = (.ok (), c') ∧
        c'.output =
          "\x7b\n  \"versions\": [\n    \x7b\n      \"version\": \"1.0.0\",\n      \"current\": true\n    \x7d,\n" ++
            "    \x7b\n      \"version\": \"1.1.0\",\n      \"current\": false\n    \x7d\n  ]\n\x7d\n" ∧
        Format.json.ShowsVersions entries c'.output ∧
        "1.0.0" ∈ entries.map VersionEntry.version ∧ "2.0.0" ∉ entries.map VersionEntry.version := by
  have happ : kioskShelf.Unscripted .app := Store.unscripted_ofRecords .app
  have htemplate : kioskShelf.Unscripted .template := Store.unscripted_ofRecords .template
  have hversion : kioskShelf.Unscripted .templateVersion := Store.unscripted_ofRecords .templateVersion
  obtain ⟨hupgrades, hinstalls⟩ := shown_versions_accepted happ htemplate hversion
  have hkept : kioskShelf.Kept atKioskShelf.session.client := .refl kioskShelf
  constructor
  · have hshow : ((upgrade noFiles .table showKiosk).run atKioskShelf).1.isOk := by decide +kernel
    obtain ⟨⟨⟩, hshow⟩ := exists_of_isOk hshow
    have hrun : (upgrade noFiles .table showKiosk).run atKioskShelf = (.ok (), _) := Prod.ext hshow rfl
    obtain ⟨entries, text, hoffered, houtput, hshows, hrefuses⟩ := hupgrades _ _ _ _ _ hkept rfl hrun
    rw [← houtput.trans String.empty_append] at hshows
    have hjust (version : String) :=
      hrefuses noFiles .table (upgradeKiosk version) atKioskShelf version hkept rfl rfl rfl
      (answerable_upgradeKiosk version)
    have hmoved : ((upgrade noFiles .table (upgradeKiosk "1.1.0")).run atKioskShelf).1 = .ok () := by cbv
    have hrefused : ((upgrade noFiles .table (upgradeKiosk "2.0.0")).run atKioskShelf).1 =
        .error (.api (.invalidVersion "2.0.0" "")) := by cbv
    have hprinted := output_showKiosk
    rw [hrun] at hprinted
    refine ⟨_, entries, hrun, hprinted, hshows, ?_, (hjust "2.0.0").iff.1 ⟨_, _, hrefused⟩⟩
    by_contra hmem
    obtain ⟨_, _, herror⟩ := (hjust "1.1.0").iff.2 hmem
    cases hmoved.symm.trans herror
  · have hshow : ((showTemplate .json "kiosk").run atKioskShelf).1.isOk := by decide +kernel
    obtain ⟨⟨⟩, hshow⟩ := exists_of_isOk hshow
    have hrun : (showTemplate .json "kiosk").run atKioskShelf = (.ok (), _) := Prod.ext hshow rfl
    obtain ⟨entries, text, hoffered, houtput, hshows, hrefuses⟩ := hinstalls _ _ _ _ hkept hrun
    rw [← houtput.trans String.empty_append] at hshows
    have hjust (version : String) :=
      hrefuses noFiles none .table (installKiosk version) atKioskShelf version hkept rfl rfl
    have haimless : ((install noFiles none .table (installKiosk "1.0.0")).run atKioskShelf).1 = .error (.invalidArgument
        "no target given and no current project configured, use --target or --project") := by cbv
    have hrefused : ((install noFiles none .table (installKiosk "2.0.0")).run atKioskShelf).1 =
        .error (.api (.invalidVersion "2.0.0" "kiosk")) := by cbv
    have hprinted := output_showTemplate_kiosk
    rw [hrun] at hprinted
    refine ⟨_, entries, hrun, hprinted, hshows, ?_, (hjust "2.0.0" (by decide)).iff.1 ⟨_, _, hrefused⟩⟩
    by_contra hmem
    obtain ⟨_, _, herror⟩ := (hjust "1.0.0" (by decide)).iff.2 hmem
    cases haimless.symm.trans herror

end Console

end MultiCluster
