/-
What an upgrade changes. All its steps but the last only read (`upgrade_submits`), and the last one
changes the store only if it succeeds, so an upgrade that fails anywhere leaves the records and the log
alone (`keepsFailing_upgrade`). One that succeeds replaces one record and logs that (`Upgraded`).
-/
import MultiCluster.Lifecycle.Change
import MultiCluster.Proofs.Answers.Filling
import MultiCluster.Proofs.Session.Steady
import MultiCluster.Proofs.Store.Writing
import Mathlib
namespace MultiCluster

/-! ## Up to the update -/

theorem FlatAnswers.steady_toAnswers (flat : FlatAnswers) :
    (toAnswers flat : Attempt Fault (Session Store) _).Keeps id Session.Steady :=
  Session.steady_of_run fun _ _ h => ⟨_, run_toAnswers h flat⟩

namespace App

variable {σ ρ : Type} [Client σ] {view : σ → ρ} {R : ρ → ρ → Prop} [IsPreorder ρ R]

theorem keeps_checkVersion {seen : Session σ → ρ} (h : Client.ReadsKeep seen R) (current : TemplateVersion)
    (version : String) : (checkVersion current version : Attempt Fault (Session σ) _).Keeps seen R := by
  unfold checkVersion
  split
  · exact .pure ()
  · refine (h.follow _ _).bind fun template => ?_
    dsimp only
    split
    · exact .pure ()
    · exact .fail _

/-- An upgrade that succeeds has read, and then replaced the app by one with the records of the answers,
the version asked for and the targets that the specifiers stand for. -/
theorem upgrade_submits (h : Client.ReadsKeep view R) {app a : App} {flat : FlatAnswers} {version : String}
    {specifiers : List String} {t t' : Session σ} (hrun : (app.upgrade flat version specifiers).run t = (.ok a, t')) :
    ∃ answers t₁ current t₂ t₃ projectIds t₄, (FlatAnswers.toAnswers flat).run t = (.ok answers, t₁) ∧
      (Client.byId .templateVersion app.templateVersionId).run t₁ = (.ok current, t₂) ∧
      (checkVersion current version).run t₂ = (.ok (), t₃) ∧
      (Session.resolveTargets specifiers).run t₃ = (.ok projectIds, t₄) ∧ R (view t.client) (view t₄.client) ∧
      (Client.update .app ({ app with
        answers
        templateVersionId := TemplateVersion.replaceVersion current.id current.version version
        targets := if projectIds.isEmpty then app.targets else targetsOf projectIds } : App)).run t₄ = (.ok a, t') := by
  obtain ⟨answers, t₁, h₁, hrun⟩ := Attempt.run_bind_eq_ok_iff.1 hrun
  obtain ⟨current, t₂, h₂, hrun⟩ := Attempt.run_bind_eq_ok_iff.1 hrun
  obtain ⟨_, t₃, h₃, hrun⟩ := Attempt.run_bind_eq_ok_iff.1 hrun
  obtain ⟨projectIds, t₄, h₄, hrun⟩ := Attempt.run_bind_eq_ok_iff.1 hrun
  have hfill := (FlatAnswers.keeps_toAnswers h flat).of_run h₁
  have hfetch := (Session.readsKeep h (.byId .templateVersion app.templateVersionId) trivial).of_run h₂
  have hcheck := (keeps_checkVersion (Session.readsKeep h) current version).of_run h₃
  have hresolve := (Session.keeps_resolveTargets h specifiers).of_run h₄
  have hread := IsTrans.trans _ _ _ (IsTrans.trans _ _ _ (IsTrans.trans _ _ _ hfill hfetch) hcheck) hresolve
  exact ⟨answers, t₁, current, t₂, t₃, projectIds, t₄, h₁, h₂, h₃, h₄, hread, hrun⟩

end App

/-! ## The update -/

namespace Session

theorem run_update (kind : Kind) (r : kind.Record) (t : Session Store) :
    (Client.update kind r).run t = ((t.client.update kind r).1, { t with client := (t.client.update kind r).2 }) := rfl

theorem run_update_eq_ok {kind : Kind} {r r' : kind.Record} {t t' : Session Store}
    (h : (Client.update kind r).run t = (.ok r', t')) :
    r' = r ∧ (∃ old, t.client.get? kind (kind.id r) = some old) ∧
      t' = { t with client := (t.client.insert kind r).record (.updated kind r) } := by
  rw [run_update] at h
  obtain ⟨hr, rfl⟩ := Prod.mk.inj h
  obtain ⟨hsame, hold, hstore⟩ := Store.update_eq_ok (Prod.ext hr rfl)
  exact ⟨hsame, hold, congrArg (fun c => { t with client := c }) hstore⟩

theorem keepsFailing_update (kind : Kind) (r : kind.Record) :
    (Client.update kind r : Attempt Fault (Session Store) _).KeepsFailing Session.client Store.Kept := by
  intro t e t' h
  rw [run_update] at h
  obtain ⟨hr, rfl⟩ := Prod.mk.inj h
  have hsame : (t.client.update kind r).2 = t.client := Store.update_eq_error (Prod.ext hr rfl)
  rw [hsame]
  exact .refl _

end Session

/-! ## The upgrade -/

namespace App

variable {app a : App} {flat : FlatAnswers} {version : String} {specifiers : List String} {t t' : Session Store}

/-- An upgrade that fails has only read. -/
theorem keepsFailing_upgrade (app : App) (flat : FlatAnswers) (version : String) (specifiers : List String) :
    (app.upgrade flat version specifiers).KeepsFailing Session.client Store.Kept := by
  have h := Store.readsKeep
  refine .bind (FlatAnswers.keeps_toAnswers h flat) fun answers => ?_
  refine .bind (Session.readsKeep h (.byId .templateVersion app.templateVersionId) trivial) fun current => ?_
  refine .bind (keeps_checkVersion (Session.readsKeep h) current version) fun _ => ?_
  refine .bind (Session.keeps_resolveTargets h specifiers) fun projectIds => ?_
  exact Session.keepsFailing_update .app _

/-- The steps before the targets only read, so the targets are those that the records give the specifiers if the memory
agreed with these at the start. -/
theorem mapM_projectIdOf_of_steps {s : Store} (hs : Session.Sound s t) {answers : List Answer}
    {current : TemplateVersion} {projectIds : List String} {t₁ t₂ t₃ t₄ : Session Store}
    (hfill : (FlatAnswers.toAnswers flat).run t = (.ok answers, t₁))
    (hfetch : (Client.byId .templateVersion app.templateVersionId).run t₁ = (.ok current, t₂))
    (hcheck : (checkVersion current version).run t₂ = (.ok (), t₃))
    (hresolve : (Session.resolveTargets specifiers).run t₃ = (.ok projectIds, t₄)) :
    specifiers.mapM s.projectIdOf = .ok projectIds := by
  have hs₁ := ((FlatAnswers.steady_toAnswers flat).of_run hfill s hs).1
  have hs₂ := ((Session.readsSteady (.byId .templateVersion app.templateVersionId) trivial).of_run hfetch s hs₁).1
  have hs₃ := ((keeps_checkVersion Session.readsSteady current version).of_run hcheck s hs₂).1
  obtain ⟨t₅, hrun, -⟩ := Session.run_resolveTargets hs₃ specifiers
  exact congrArg Prod.fst (hrun.symm.trans hresolve)

/-- An upgrade that succeeds has updated one app, on a store that was only read until then. -/
theorem run_upgrade_eq_ok (h : (app.upgrade flat version specifiers).run t = (.ok a, t')) :
    ∃ answers t₁ current t₂ projectIds u, (FlatAnswers.toAnswers flat).run t = (.ok answers, t₁) ∧
      (Client.byId .templateVersion app.templateVersionId).run t₁ = (.ok current, t₂) ∧
      specifiers.map t'.projectIds.get? = projectIds.map some ∧
      (∀ s, Session.Sound s t → specifiers.mapM s.projectIdOf = .ok projectIds) ∧
      a = { app with
        answers
        templateVersionId := TemplateVersion.replaceVersion current.id current.version version
        targets := if specifiers = [] then app.targets else targetsOf projectIds } ∧
      t.client.Kept u ∧ (∃ old, u.get? .app app.id = some old) ∧
      t'.client = (u.insert .app a).record (.updated .app a) := by
  obtain ⟨answers, t₁, current, t₂, t₃, projectIds, t₄, h₁, h₂, h₃, h₄, hkept, h⟩ := upgrade_submits Store.readsKeep h
  obtain ⟨hids, -⟩ := Session.remembers_resolveTargets h₄
  have hempty : projectIds.isEmpty = true ↔ specifiers = [] := by
    rw [List.isEmpty_iff, Session.resolved_eq_nil_iff h₄]
  obtain ⟨rfl, hold, rfl⟩ := Session.run_update_eq_ok h
  exact ⟨answers, t₁, current, t₂, projectIds, t₄.client, h₁, h₂, hids,
    fun _ hs => mapM_projectIdOf_of_steps hs h₁ h₂ h₃ h₄, by simp only [hempty], hkept, hold, rfl⟩

/-- What an upgrade did that gave `a`. -/
structure Upgraded (app : App) (flat : FlatAnswers) (version : String) (specifiers : List String) (t t' : Session Store)
    (a : App) : Prop where
  /-- The app is made of the answers of the map, of the version asked for and, where there are any specifiers, of the
  targets they are now known to stand for. These are what the records say if the memory agreed with them, as that of a
  new session does. -/
  made : ∃ answers t₁ current t₂ projectIds, (FlatAnswers.toAnswers flat).run t = (.ok answers, t₁) ∧
    (Client.byId .templateVersion app.templateVersionId).run t₁ = (.ok current, t₂) ∧
    (t.client.Unscripted .templateVersion →
      t.client.get? .templateVersion app.templateVersionId = some current ∧ current.id = app.templateVersionId) ∧
    specifiers.map t'.projectIds.get? = projectIds.map some ∧
    (Session.Sound t.client t → specifiers.mapM t.client.projectIdOf = .ok projectIds) ∧
    a = { app with
      answers
      templateVersionId := TemplateVersion.replaceVersion current.id current.version version
      targets := if specifiers = [] then app.targets else targetsOf projectIds }
  stored : t'.client.get? .app app.id = some a
  existed : ∃ old, t.client.get? .app app.id = some old
  others : ∀ kind id, ¬ (kind = .app ∧ id = app.id) → t'.client.get? kind id = t.client.get? kind id
  logged : t'.client.log = t.client.log ++ [.updated .app a]

/-- A template version that is not scripted is fetched as it is stored. -/
theorem fetched_templateVersion (hk : t.client.Keyed) {t₁ t₂ : Session Store} (h : t.client.Kept t₁.client)
    {id : String} {current : TemplateVersion} (hrun : (Client.byId .templateVersion id).run t₁ = (.ok current, t₂))
    (hu : t.client.Unscripted .templateVersion) :
    t.client.get? .templateVersion id = some current ∧ current.id = id := by
  have hbyId : (t₁.client.byId .templateVersion id).1 = .ok current := congrArg Prod.fst hrun
  rw [Store.byId_of_unscripted (h.unscripted _ hu id),
    Store.get?_congr (congrArg (·.get .templateVersion) h.records)] at hbyId
  cases hg : t.client.get? .templateVersion id with
  | none =>
    rw [hg] at hbyId
    cases hbyId
  | some r =>
    rw [hg] at hbyId
    cases hbyId
    exact ⟨rfl, hk .templateVersion id _ hg⟩

theorem upgraded (hk : t.client.Keyed) (h : (app.upgrade flat version specifiers).run t = (.ok a, t')) :
    Upgraded app flat version specifiers t t' a := by
  obtain ⟨answers, t₁, current, t₂, projectIds, u, h₁, h₂, hids, hknown, hmade, hkept, hold, hupdate⟩ :=
    run_upgrade_eq_ok h
  have hid : a.id = app.id := by rw [hmade]
  have hget : ∀ kind id, u.get? kind id = t.client.get? kind id := fun kind =>
    Store.get?_congr (congrArg (·.get kind) hkept.records)
  have hinsert : ∀ kind id, t'.client.get? kind id = (u.insert .app a).get? kind id := fun kind id => by
    rw [hupdate]
    rfl
  constructor
  case made =>
    have hcurrent := fetched_templateVersion hk ((FlatAnswers.keeps_toAnswers Store.readsKeep flat).of_run h₁) h₂
    exact ⟨answers, t₁, current, t₂, projectIds, h₁, h₂, hcurrent, hids, hknown t.client, hmade⟩
  case stored =>
    rw [hinsert, ← hid]
    exact Store.get?_insert_self .app a u
  case existed =>
    rw [← hget]
    exact hold
  case others =>
    intro kind id hne
    rw [hinsert, ← hget, Store.get?_insert]
    split
    · rename_i hkind
      subst hkind
      exact if_neg fun he => hne ⟨rfl, he.symm.trans hid⟩
    · rfl
  case logged =>
    rw [hupdate, ← hkept.log]
    rfl

/-- An upgrade that fails leaves the records and the log as they were. One that succeeds logs one update
and changes one record: the app with the ID of the one passed in, which becomes that one with the records
of the answers, the template version with the version asked for and, if there are any specifiers, the
targets they stand for. -/
theorem upgrade_atomic (hr : t.client.Reachable) (app : App) (flat : FlatAnswers) (version : String)
    (specifiers : List String) :
    (∀ e t', (app.upgrade flat version specifiers).run t = (.error e, t') →
      t'.client.records = t.client.records ∧ t'.client.log = t.client.log) ∧
    ∀ a t', (app.upgrade flat version specifiers).run t = (.ok a, t') →
    Upgraded app flat version specifiers t t' a := by
  constructor
  · intro e t' h
    have hkept := keepsFailing_upgrade app flat version specifiers t e t' h
    exact ⟨hkept.records, hkept.log⟩
  · intro a t' h
    exact upgraded hr.keyed h

/-- An app with a target and with answers of all three scopes. -/
def kiosk : App :=
  { id := "a-1"
    name := "kiosk"
    templateVersionId := "kiosk-1.0.0"
    targets := [{ projectId := "c-1:p-1", state := "active" }]
    answers := [{ values := Dict.ofList [("zone", "eu")] },
      { clusterId := "c-1", values := Dict.ofList [("size", "1")] },
      { projectId := "c-1:p-1", values := Dict.ofList [("a:b", "3")] }] }

/-- The app beside one cluster and one project, with a template that offers two versions. -/
def kioskStore : Store :=
  let template : Template :=
    { id := "kiosk", versionLinks := Dict.ofList [("1.0.0", "/v/1.0.0"), ("1.1.0", "/v/1.1.0")] }
  let current : TemplateVersion :=
    { id := "kiosk-1.0.0", version := "1.0.0", links := Dict.ofList [("template", "/t")] }
  ((Store.prodWeb.insertLink "/t" (Kind.toJson .template template)).insert .templateVersion current).insert .app kiosk

theorem reachable_kioskStore : kioskStore.Reachable :=
  .inserted .app kiosk (.inserted .templateVersion _ (.linked "/t" _ Store.reachable_ofRecords))

/-- A version that the template offers is moved to, with the target resolved anew; another one leaves the
app alone. -/
theorem upgrade_atomic_kiosk :
    (∃ a t', (kiosk.upgrade (Dict.ofList [("prod:size", "2")]) "1.1.0" ["prod:web"]).run
        ({ client := kioskStore } : Session Store) = (.ok a, t') ∧
      Upgraded kiosk (Dict.ofList [("prod:size", "2")]) "1.1.0" ["prod:web"] { client := kioskStore } t' a ∧
      a = { kiosk with
        answers := [{ clusterId := "c-1", values := Dict.ofList [("size", "2")] }]
        templateVersionId := "kiosk-1.1.0"
        targets := [{ projectId := "c-1:p-1" }] }) ∧
    ∃ t', (kiosk.upgrade (Dict.ofList [("prod:size", "2")]) "2.0.0" ["prod:web"]).run
        ({ client := kioskStore } : Session Store) = (.error (.invalidVersion "2.0.0" ""), t') ∧
      t'.client.records = kioskStore.records ∧ t'.client.log = kioskStore.log := by
  have h := upgrade_atomic (t := { client := kioskStore }) reachable_kioskStore kiosk (Dict.ofList [("prod:size", "2")])
  have hok : (kiosk.upgrade (Dict.ofList [("prod:size", "2")]) "1.1.0" ["prod:web"]).run
      ({ client := kioskStore } : Session Store) = (.ok _, _) := Prod.ext (by cbv) rfl
  have herror : (kiosk.upgrade (Dict.ofList [("prod:size", "2")]) "2.0.0" ["prod:web"]).run
      ({ client := kioskStore } : Session Store) = (.error (.invalidVersion "2.0.0" ""), _) := Prod.ext (by cbv) rfl
  exact ⟨⟨_, _, hok, (h "1.1.0" ["prod:web"]).2 _ _ hok, rfl⟩, _, herror, (h "2.0.0" ["prod:web"]).1 _ _ herror⟩

end App

end MultiCluster
