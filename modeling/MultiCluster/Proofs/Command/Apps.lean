/-
The listing of apps. What it shows of an app, the records of the store decide, each app by itself (`Store.appRow`):
the session that remembers versions gives the same rows (`run_appRows`, by induction on the apps with the IDs asked
for so far). So a listing fails at the first app whose template version is not there, and else shows every app
(`run_ls_cases`), with its row in the columns of a table or among the members of a value (`Format.ShowsApps`).
-/
import MultiCluster.Proofs.Command.Console
import MultiCluster.Proofs.Directory
import MultiCluster.Proofs.Report.Listing
import MultiCluster.Proofs.Session.Versions
import MultiCluster.Command.Run
import Mathlib
namespace MultiCluster

/-! ## Rows -/

namespace Store

variable {s : Store} {a : App}

/-- A target as it is listed: by the names of its cluster and its project, where both are there. -/
def targetName (s : Store) (t : Target) : String :=
  match s.get? .cluster (splitScope t.projectId).1, s.get? .project t.projectId with
  | some cluster, some project => cluster.name ++ ":" ++ project.name
  | _, _ => t.projectId

/-- The version of an app, which has none without a template version. -/
def appVersion (s : Store) (a : App) : Except Fault String :=
  if a.templateVersionId = "" then .ok "" else s.versionOf a.templateVersionId

/-- The row of an app, its version fetched for itself. -/
def appRow (s : Store) (a : App) : Except Fault AppRow :=
  (s.appVersion a).map fun version => ⟨a.id, a.name, a.state, version, a.targets.map s.targetName⟩

/-- The app has a template version that is not there. -/
def Lacks (s : Store) (a : App) : Prop := a.templateVersionId ≠ "" ∧ s.get? .templateVersion a.templateVersionId = none

theorem versionOf_eq_error {id : String} {e : Fault} :
    s.versionOf id = .error e ↔ s.get? .templateVersion id = none ∧ e = .notFound .templateVersion id := by
  unfold versionOf stored
  cases s.get? .templateVersion id with
  | none => simp [Except.map, eq_comm]
  | some r => exact iff_of_false nofun nofun

theorem appRow_eq_error {e : Fault} :
    s.appRow a = .error e ↔ s.Lacks a ∧ e = .notFound .templateVersion a.templateVersionId := by
  have hversion : s.appRow a = .error e ↔ s.appVersion a = .error e := by
    unfold appRow
    cases s.appVersion a <;> simp [Except.map]
  rw [hversion, appVersion, Lacks]
  split <;> simp_all [versionOf_eq_error]

/-- What is shown of an app whose template version is there. -/
def shownRow (s : Store) (a : App) : AppRow where
  id := a.id
  name := a.name
  state := a.state
  version :=
    if a.templateVersionId = "" then ""
    else (s.get? .templateVersion a.templateVersionId).elim "" TemplateVersion.version
  targets := a.targets.map s.targetName

theorem appRow_of_not_lacks (h : ¬ s.Lacks a) : s.appRow a = .ok (s.shownRow a) := by
  unfold appRow appVersion shownRow versionOf stored
  by_cases hid : a.templateVersionId = ""
  · simp [hid, Except.map]
  · obtain ⟨r, hr⟩ := Option.ne_none_iff_exists'.1 fun hnone => h ⟨hid, hnone⟩
    simp [hid, hr, Except.map]

theorem exists_appRow_eq_ok : (∃ row, s.appRow a = .ok row) ↔ ¬ s.Lacks a := by
  constructor
  · rintro ⟨row, hrow⟩ hlacks
    cases hrow.symm.trans (appRow_eq_error.2 ⟨hlacks, rfl⟩)
  · intro h
    exact ⟨_, appRow_of_not_lacks h⟩

variable {apps : List App}

theorem mapM_appRow (h : ∀ a ∈ apps, ¬ s.Lacks a) : apps.mapM s.appRow = .ok (apps.map s.shownRow) := by
  rw [mapM_congr fun a ha => appRow_of_not_lacks (h a ha)]
  exact List.mapM_pure

theorem mapM_appRow_eq_error {e : Fault} : apps.mapM s.appRow = .error e ↔
    First (fun a => ¬ s.Lacks a) (fun a => s.Lacks a ∧ e = .notFound .templateVersion a.templateVersionId) apps := by
  simp only [mapM_eq_error, exists_appRow_eq_ok, appRow_eq_error]

end Store

/-- The template versions that apps name. -/
def templateVersionIds (apps : List App) : Finset String := (apps.map App.templateVersionId).toFinset.erase ""

theorem mem_templateVersionIds {apps : List App} {id : String} :
    id ∈ templateVersionIds apps ↔ id ≠ "" ∧ ∃ a ∈ apps, a.templateVersionId = id := by
  simp [templateVersionIds]

theorem templateVersionIds_cons (a : App) (apps : List App) :
    templateVersionIds (a :: apps) = templateVersionIds [a] ∪ templateVersionIds apps := by
  ext id
  simp only [Finset.mem_union, mem_templateVersionIds]
  grind

/-! ## Listings through a session -/

/-- Listing through a session that is new. -/
theorem Session.run_listAll_fresh (kind : Kind) (filters : Dict String) (s : Store) :
    ∃ u, (Client.listAll kind filters).run ({ client := s } : Session Store) =
      (.ok (s.found kind filters), { client := u }) ∧
      s.PagesOnly u := by
  obtain ⟨u, hu, hpages⟩ := Store.run_listAll kind filters s
  rw [Session.listAll_eq_onClient, Session.run_onClient, hu]
  exact ⟨u, rfl, hpages⟩

theorem Directory.load_eq_onClient :
    (Directory.load : Attempt Fault (Session Store) Directory) = Session.onClient Directory.load := by
  unfold Directory.load
  simp only [Session.onClient_bind, Session.listAll_eq_onClient]
  rfl

namespace Console

variable {s : Store} {ids : Finset String} {t : Session Store}

theorem run_appRow (hu : s.Unscripted .templateVersion) (h : Session.Remembers s ids t) (a : App) :
    ∃ t', (appRow ⟨s.records.get .cluster, s.records.get .project⟩ a).run t = (s.appRow a, t') ∧
      s.Asked (ids ∪ templateVersionIds [a]) t'.client ∧
      ((∃ row, s.appRow a = .ok row) → Session.Remembers s (ids ∪ templateVersionIds [a]) t') := by
  -- the directory names targets as the records do, so only the version takes work
  unfold appRow Store.appRow Store.appVersion
  by_cases hid : a.templateVersionId = ""
  · have hnone : templateVersionIds [a] = ∅ := by simp [templateVersionIds, hid]
    rw [if_pos (by simpa using hid), if_pos hid, hnone, Finset.union_empty]
    exact ⟨t, rfl, h.asked, fun _ => h⟩
  · have hone : templateVersionIds [a] = {a.templateVersionId} := by
      ext
      simp [templateVersionIds]
      grind
    obtain ⟨t', hversion, hasked, hremembers⟩ := Session.run_versionOf hu h a.templateVersionId
    rw [if_neg (by simpa using hid), if_neg hid, hone]
    cases hv : s.versionOf a.templateVersionId with
    | error e =>
      rw [hv] at hversion
      rw [Attempt.run_bind_error hversion]
      exact ⟨t', rfl, hasked, by rintro ⟨row, ⟨⟩⟩⟩
    | ok version =>
      rw [hv] at hversion
      rw [Attempt.run_bind_ok hversion]
      exact ⟨t', rfl, hasked, fun _ => hremembers ⟨version, hv⟩⟩

theorem run_appRows (hu : s.Unscripted .templateVersion) (h : Session.Remembers s ids t) (apps : List App) :
    ∃ ids' t', (appRows ⟨s.records.get .cluster, s.records.get .project⟩ apps).run t = (apps.mapM s.appRow, t') ∧
      s.Asked ids' t'.client ∧ ((∃ rows, apps.mapM s.appRow = .ok rows) → ids' = ids ∪ templateVersionIds apps) := by
  -- on the apps, for any IDs asked before; an error ends it with those asked up to there
  induction apps generalizing ids t with
  | nil => exact ⟨ids, t, rfl, h.asked, fun _ => (Finset.union_empty ids).symm⟩
  | cons a apps ih =>
    obtain ⟨t₁, hrow, hasked, hremembers⟩ := run_appRow hu h a
    rw [appRows, List.mapM_cons, templateVersionIds_cons, ← Finset.union_assoc]
    cases hr : s.appRow a with
    | error e =>
      rw [hr] at hrow
      rw [Attempt.run_bind_error hrow]
      exact ⟨_, t₁, rfl, hasked, by rintro ⟨rows, ⟨⟩⟩⟩
    | ok row =>
      rw [hr] at hrow
      rw [Attempt.run_bind_ok hrow]
      obtain ⟨ids', t', hrows, hasked', hall⟩ := ih (hremembers ⟨row, hr⟩)
      refine ⟨ids', t', ?_, hasked', ?_⟩
      · rw [Attempt.run_bind, hrows]
        cases apps.mapM s.appRow <;> rfl
      · rintro ⟨rows, hok⟩
        obtain ⟨_, -, hrest⟩ := bind_eq_ok hok
        obtain ⟨rest, hrest, -⟩ := bind_eq_ok hrest
        exact hall ⟨rest, hrest⟩

/-! ## Listings -/

theorem run_listApps_quiet (s : Store) :
    ∃ t', (listApps true).run ({ client := s } : Session Store) = (.ok ((s.found .app ∅).map quietRow), t') ∧
      s.Asked ∅ t'.client := by
  obtain ⟨u, hu, hpages⟩ := Session.run_listAll_fresh .app ∅ s
  unfold listApps
  rw [Attempt.run_bind_ok hu]
  exact ⟨_, rfl, hpages.asked⟩

/-- Apps are listed with the rows that they have one by one. -/
theorem run_listApps (hk : s.Keyed) (hu : s.Unscripted .templateVersion) :
    ∃ ids t', (listApps false).run ({ client := s } : Session Store) = ((s.found .app ∅).mapM s.appRow, t') ∧
      s.Asked ids t'.client ∧
      ((∃ rows, (s.found .app ∅).mapM s.appRow = .ok rows) → ids = templateVersionIds (s.found .app ∅)) := by
  obtain ⟨u, happs, hpages⟩ := Session.run_listAll_fresh .app ∅ s
  obtain ⟨w, hload, hpages'⟩ := Directory.run_load_pagesOnly (hk.congr hpages.kept.records)
  have hsession : (Directory.load : Attempt Fault (Session Store) Directory).run { client := u } =
      (.ok ⟨s.records.get .cluster, s.records.get .project⟩, { client := w }) := by
    rw [Directory.load_eq_onClient, Session.run_onClient, hload, hpages.kept.records]
  obtain ⟨ids, t', hrows, hasked, hall⟩ :=
    run_appRows hu (Session.remembers_fresh (hpages.trans hpages')) (s.found .app ∅)
  rw [Finset.empty_union] at hall
  unfold listApps
  rw [Attempt.run_bind_ok happs]
  dsimp only
  rw [if_neg Bool.false_ne_true, Attempt.run_bind_ok hsession]
  exact ⟨ids, t', hrows, hasked, hall⟩

section Ls

variable {format : Format} {quiet : Bool} {c : Console Store} {rows : List AppRow} {e : Fault}

theorem run_ls_of_ok (h : (listApps quiet).run c.session = (.ok rows, t)) : (ls format quiet).run c =
    (.ok (), { c with session := t, output := c.output ++ Report.render format (.apps rows quiet) }) := by
  unfold ls
  rw [Attempt.run_bind_ok (run_remote_of_ok h)]
  rfl

theorem run_ls_of_error (h : (listApps quiet).run c.session = (.error e, t)) :
    (ls format quiet).run c = (.error (.api e), { c with session := t }) := by
  unfold ls
  rw [Attempt.run_bind_error (run_remote_of_error h)]

variable (hc : c.session = { client := s })
include hc

theorem run_ls_quiet : ∃ c', (ls format true).run c = (.ok (), c') ∧
    c'.output = c.output ++ Report.render format (.apps ((s.found .app ∅).map quietRow) true) ∧
    s.Asked ∅ c'.session.client := by
  obtain ⟨t', hrows, hasked⟩ := run_listApps_quiet s
  rw [← hc] at hrows
  exact ⟨_, run_ls_of_ok hrows, rfl, hasked⟩

variable (hk : s.Keyed) (hu : s.Unscripted .templateVersion)
include hk hu

/-- Either every app is shown, or there is a first one whose template version is not there. -/
theorem run_ls_cases :
    (∃ c', (ls format false).run c = (.ok (), c') ∧ (∀ a ∈ s.found .app ∅, ¬ s.Lacks a) ∧
      c'.output = c.output ++ Report.render format (.apps ((s.found .app ∅).map s.shownRow) false) ∧
      s.Asked (templateVersionIds (s.found .app ∅)) c'.session.client) ∨
    ∃ a c' ids, (ls format false).run c = (.error (.api (.notFound .templateVersion a.templateVersionId)), c') ∧
      First (fun a => ¬ s.Lacks a) (fun b => s.Lacks b ∧ b = a) (s.found .app ∅) ∧
      c'.output = c.output ∧ s.Asked ids c'.session.client := by
  obtain ⟨ids, t', hrows, hasked, hall⟩ := run_listApps hk hu
  rw [← hc] at hrows
  rcases first_or_forall s.Lacks (s.found .app ∅) with hfirst | hnone
  · obtain ⟨earlier, a, later, happs, hok, hlacks⟩ := hfirst
    have hfault : (s.found .app ∅).mapM s.appRow = .error (.notFound .templateVersion a.templateVersionId) :=
      Store.mapM_appRow_eq_error.2 ⟨earlier, a, later, happs, hok, hlacks, rfl⟩
    rw [hfault] at hrows
    exact .inr ⟨a, _, ids, run_ls_of_error hrows, ⟨earlier, a, later, happs, hok, hlacks, rfl⟩, rfl, hasked⟩
  · have hshown := Store.mapM_appRow hnone
    rw [hshown] at hrows
    rw [hall ⟨_, hshown⟩] at hasked
    exact .inl ⟨_, run_ls_of_ok hrows, hnone, rfl, hasked⟩

end Ls

end Console

namespace Invocation

variable {files : Files} {config : Config} {i : Invocation} {c : Console Store}

theorem run_of_ls {quiet : Bool} (h : i.command.getD (.ls false) = .ls quiet) :
    (i.run files config).run c =
    (Console.ls i.format quiet).run { c with session := { client := c.session.client } } := by
  unfold run
  rw [h]
  rfl

/-- Listings of the apps of a store whose template versions are not scripted. A quiet one shows the IDs and fetches
nothing. Another one fails at the first app whose template version is not there; else it shows a row for every
app, as the records give it, and has fetched every template version that is named once. -/
theorem run_lists_apps {s : Store} (hc : c.session.client = s) (hr : s.Reachable)
    (hu : s.Unscripted .templateVersion) :
    ∃ apps : List App, (∀ a, a ∈ apps ↔ s.get? .app a.id = some a) ∧ apps.Pairwise (·.id < ·.id) ∧
      (i.command.getD (.ls false) = .ls false → ∃ r c', (i.run files config).run c = (r, c') ∧
        ((∃ e, r = .error e) ↔ ∃ a ∈ apps, s.Lacks a) ∧
        (∀ e, r = .error e → c'.output = c.output ∧ First (fun a => ¬ s.Lacks a)
          (fun a => s.Lacks a ∧ e = .api (.notFound .templateVersion a.templateVersionId)) apps) ∧
        (r = .ok () → (∃ text, c'.output = c.output ++ text ∧ i.format.ShowsApps (apps.map s.shownRow) text) ∧
          ∀ kind id, c'.session.client.fetchesOf kind id = s.fetchesOf kind id +
            if kind = .templateVersion ∧ id ≠ "" ∧ ∃ a ∈ apps, a.templateVersionId = id then 1 else 0) ∧
        ∀ kind id, c'.session.client.fetchesOf kind id ≤ s.fetchesOf kind id + 1) ∧
      (i.command = some (.ls true) → ∃ c' text, (i.run files config).run c = (.ok (), c') ∧
        c'.output = c.output ++ text ∧
        i.format.ShowsIds (apps.map fun a => ⟨a.id, a.name, a.state, "", []⟩) text ∧
        ∀ kind id, c'.session.client.fetchesOf kind id = s.fetchesOf kind id) := by
  have hk := hr.keyed
  have honce {ids : Finset String} {t : Store} (hasked : s.Asked ids t) (kind : Kind) (id : String) :
      t.fetchesOf kind id ≤ s.fetchesOf kind id + 1 := by
    rw [hasked.fetches]
    split <;> omega
  refine ⟨s.found .app ∅, ?_, ?_, ?_, ?_⟩
  · intro a
    rw [Store.mem_found hk]
    exact and_iff_left (Kind.matchesAll_iff.2 fun f v h => by cases h)
  · have hids : ((s.found .app ∅).map (Kind.id .app)).Pairwise (· < ·) := Store.ascending_found hk
    exact List.pairwise_map.1 hids
  · intro hls
    rw [run_of_ls hls, hc]
    rcases @Console.run_ls_cases s i.format { c with session := { client := s } } rfl hk hu with
      ⟨c', hrun, hnone, houtput, hasked⟩ | ⟨a, c', ids, hrun, hfirst, houtput, hasked⟩
    · refine ⟨_, c', hrun, ?_, nofun, fun _ => ⟨⟨_, houtput, Report.showsApps_render ..⟩, fun kind id => ?_⟩,
        honce hasked⟩
      · simpa using hnone
      · simp only [hasked.fetches, mem_templateVersionIds]
    · obtain ⟨earlier, a, later, happs, hok, hlacks, rfl⟩ := hfirst
      refine ⟨_, c', hrun, ?_, ?_, nofun, honce hasked⟩
      · exact iff_of_true ⟨_, rfl⟩ ⟨a, by simp [happs], hlacks⟩
      · rintro _ ⟨⟩
        exact ⟨houtput, earlier, a, later, happs, hok, hlacks, rfl⟩
  · intro hquiet
    have hls : i.command.getD (.ls false) = .ls true := by rw [hquiet]; rfl
    obtain ⟨c', hrun, houtput, hasked⟩ := @Console.run_ls_quiet s i.format { c with session := { client := s } } rfl
    rw [run_of_ls hls, hc]
    refine ⟨c', _, hrun, houtput, Report.showsIds_render .., fun kind id => ?_⟩
    simpa using hasked.fetches kind id

/-- Two apps that share a template version and one that names none, handed out one by one. The second one has a target
that is not there. -/
def kioskApps : Store :=
  { Store.insertAll .app
      [{ id := "a-2", name := "till", templateVersionId := "kiosk-1", targets := [{ projectId := "c-9:p-9" }] },
        { id := "a-1", name := "shop", templateVersionId := "kiosk-1", targets := [{ projectId := "c-1:p-1" }] },
        { id := "a-3", name := "bare" }]
      (Store.insertAll .templateVersion [{ id := "kiosk-1", version := "1.0.0" }] .prodWeb) with pageSize := some 1 }

/-- An app whose template version is not there. -/
def orphanedApp : Store := Store.insertAll .app [{ id := "a-1", templateVersionId := "gone" }] {}

theorem reachable_kioskApps : kioskApps.Reachable :=
  .paged 1 (Store.reachable_insertAll (Store.reachable_insertAll Store.reachable_ofRecords))

theorem unscripted_kioskApps : kioskApps.Unscripted .templateVersion := fun id =>
  calc kioskApps.scriptOf .templateVersion id
    _ = (Store.insertAll .templateVersion _ .prodWeb).scriptOf .templateVersion id := Store.scriptOf_insertAll ..
    _ = Store.prodWeb.scriptOf .templateVersion id := Store.scriptOf_insertAll ..
    _ = [] := Store.unscripted_ofRecords _ id

/-- One app that names no template version. -/
def bareApp : Store :=
  Store.insertAll .app [{ id := "a-3", name := "bare", targets := [{ projectId := "c-1:p-1" }] }] .prodWeb

/-- The listing of the kiosk's apps. -/
theorem output_kioskApps : ((({} : Invocation).run noFiles {}).run { session := { client := kioskApps } }).2.output =
    "NAME  STATE  VERSION  TARGET_PROJECTS\nshop         1.0.0    prod:web\ntill         1.0.0    c-9:p-9\nbare\n" := by
  cbv

theorem output_bareApp :
    ((({ format := .json } : Invocation).run noFiles {}).run { session := { client := bareApp } }).2.output =
      "\x7b\n  \"apps\": [\n    \x7b\n      \"id\": \"a-3\",\n      \"name\": \"bare\",\n      \"state\": \"\",\n" ++
        "      \"version\": \"\",\n      \"targets\": [\n        \"prod:web\"\n      ]\n    \x7d\n  ]\n\x7d\n" := by
  cbv

/-- A listing in either format, one that fails, and a quiet one. -/
theorem run_lists_apps_kiosk :
    (∃ c', ((({} : Invocation).run noFiles {}).run { session := { client := kioskApps } }) = (.ok (), c') ∧
      c'.output =
        "NAME  STATE  VERSION  TARGET_PROJECTS\nshop         1.0.0    prod:web\ntill         1.0.0    c-9:p-9\nbare\n" ∧
      (∃ apps : List App, Format.table.ShowsApps (apps.map kioskApps.shownRow) c'.output) ∧
      c'.session.client.fetchesOf .templateVersion "kiosk-1" = 1) ∧
    (∃ c', ((({ format := .json } : Invocation).run noFiles {}).run { session := { client := bareApp } }) =
      (.ok (), c') ∧
      c'.output =
        "\x7b\n  \"apps\": [\n    \x7b\n      \"id\": \"a-3\",\n      \"name\": \"bare\",\n      \"state\": \"\",\n" ++
          "      \"version\": \"\",\n      \"targets\": [\n        \"prod:web\"\n      ]\n    \x7d\n  ]\n\x7d\n" ∧
      ∃ apps : List App, Format.json.ShowsApps (apps.map bareApp.shownRow) c'.output) ∧
    (∃ e c', ((({} : Invocation).run noFiles {}).run { session := { client := orphanedApp } }) = (.error e, c') ∧
      c'.output = "") ∧
    ∃ c', ((({ command := some (.ls true) } : Invocation).run noFiles {}).run
      { session := { client := orphanedApp } }) =
      (.ok (), c') ∧ c'.output = "a-1\n" ∧ c'.session.client.fetchesOf .templateVersion "gone" = 0 := by
  have hr : orphanedApp.Reachable := Store.reachable_insertAll .empty
  have hu : orphanedApp.Unscripted .templateVersion := fun _ => Store.scriptOf_insertAll ..
  refine ⟨?table, ?json, ?failing, ?quiet⟩
  case table =>
    obtain ⟨apps, hmem, -, hls, -⟩ := @run_lists_apps noFiles {} {}
      { session := { client := kioskApps } } _ rfl reachable_kioskApps unscripted_kioskApps
    obtain ⟨r, c', hrun, -, -, hok, -⟩ := hls rfl
    have hprinted := output_kioskApps
    obtain rfl : r = .ok () := (congrArg Prod.fst hrun).symm.trans (by cbv)
    obtain ⟨⟨text, houtput, hshows⟩, hfetches⟩ := hok rfl
    rw [String.empty_append] at houtput
    rw [hrun] at hprinted
    have hnamed : ∃ a ∈ apps, a.templateVersionId = "kiosk-1" :=
      ⟨{ id := "a-1", name := "shop", templateVersionId := "kiosk-1", targets := [{ projectId := "c-1:p-1" }] },
        (hmem _).2 (by decide), rfl⟩
    refine ⟨c', hrun, hprinted, ⟨apps, houtput ▸ hshows⟩, (hfetches _ _).trans ?_⟩
    rw [if_pos ⟨rfl, by decide, hnamed⟩]
    rfl
  case json =>
    have hbare : bareApp.Unscripted .templateVersion := fun id =>
      (Store.scriptOf_insertAll ..).trans (Store.unscripted_ofRecords _ id)
    obtain ⟨apps, -, -, hls, -⟩ := @run_lists_apps noFiles {} { format := .json }
      { session := { client := bareApp } } _ rfl (Store.reachable_insertAll Store.reachable_ofRecords) hbare
    obtain ⟨r, c', hrun, -, -, hok, -⟩ := hls rfl
    have hprinted := output_bareApp
    obtain rfl : r = .ok () := (congrArg Prod.fst hrun).symm.trans (by cbv)
    obtain ⟨⟨text, houtput, hshows⟩, -⟩ := hok rfl
    rw [String.empty_append] at houtput
    rw [hrun] at hprinted
    exact ⟨c', hrun, hprinted, apps, houtput ▸ hshows⟩
  case failing =>
    obtain ⟨apps, -, -, hls, -⟩ := @run_lists_apps noFiles {} {}
      { session := { client := orphanedApp } } _ rfl hr hu
    obtain ⟨r, c', hrun, -, herror, -⟩ := hls rfl
    obtain rfl : r = .error (.api (.notFound .templateVersion "gone")) := (congrArg Prod.fst hrun).symm.trans (by cbv)
    exact ⟨_, c', hrun, (herror _ rfl).1⟩
  case quiet =>
    obtain ⟨apps, -, -, -, hquiet⟩ := @run_lists_apps noFiles {} { command := some (.ls true) }
      { session := { client := orphanedApp } } _ rfl hr hu
    obtain ⟨c', text, hrun, -, -, hfetches⟩ := hquiet rfl
    have hprinted : (((({ command := some (.ls true) } : Invocation).run noFiles {}).run
        { session := { client := orphanedApp } })).2.output = "a-1\n" := by
      cbv
    rw [hrun] at hprinted
    exact ⟨c', hrun, hprinted, hfetches _ _⟩

end Invocation

end MultiCluster
