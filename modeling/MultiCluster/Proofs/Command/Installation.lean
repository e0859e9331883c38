/-
An install from its first step to its last. It settles, one after the other, which template version it is to be
(`Chooses`), the answers (`Gathers`), the targets (`Aims`) and the records of the answers; it can fail at each of
these (`Prepares`). If so it has written nothing. If not, it creates one app, and then waits for it
(`Invocation.run_install`).
-/
import MultiCluster.Proofs.Command.Reading
import MultiCluster.Proofs.Lifecycle.Polling
import MultiCluster.Command.Run
namespace MultiCluster

/-! ## The steps before the create -/

namespace InstallRequest

section Steps

variable {σ : Type} [Client σ]

/-- The version that is asked for: the template's default one where none, or an empty one, is given. -/
def wanted (r : InstallRequest) (template : Template) : String :=
  match r.version with
  | some version => if version.isEmpty then template.defaultVersion else version
  | none => template.defaultVersion

/-- What the choice of a template version comes to: a failure, or the ID that the link of the version ends in. -/
inductive Chooses (r : InstallRequest) (t : Session σ) : Except CommandFault String → Session σ → Prop
  | unknown {e : Fault} {t' : Session σ} (hlookup : (Client.lookup .template r.template ∅).run t = (.error e, t')) :
      r.Chooses t (.error (.api e)) t'
  | notOffered {template : Template} {t' : Session σ}
      (hlookup : (Client.lookup .template r.template ∅).run t = (.ok template, t'))
      (hlink : template.versionLinks.get? (r.wanted template) = none) :
      r.Chooses t (.error (.api (.invalidVersion (r.wanted template) r.template))) t'
  | chosen {template : Template} {link : String} {t' : Session σ}
      (hlookup : (Client.lookup .template r.template ∅).run t = (.ok template, t'))
      (hlink : template.versionLinks.get? (r.wanted template) = some link) :
      r.Chooses t (.ok (TemplateVersion.idOfLink link)) t'

/-- What becomes of the answers: those of the sources, to which the questions of the template version add theirs. -/
inductive Gathers (r : InstallRequest) (files : Files) (terminal : Terminal) (id : String) (t : Session σ) :
    Except CommandFault FlatAnswers → Session σ → Prop
  | missing {e : Fault} {t' : Session σ} (hfetch : (Client.byId .templateVersion id).run t = (.error e, t')) :
      r.Gathers files terminal id t (.error (.api e)) t'
  | unread {version : TemplateVersion} {e : CommandFault} {t' : Session σ}
      (hfetch : (Client.byId .templateVersion id).run t = (.ok version, t'))
      (hcollect : AnswerSources.collect files ∅ r.sources = .error e) : r.Gathers files terminal id t (.error e) t'
  | unanswered {version : TemplateVersion} {collected : FlatAnswers} {e : CommandFault} {i : Interview} {t' : Session σ}
      (hfetch : (Client.byId .templateVersion id).run t = (.ok version, t'))
      (hcollect : AnswerSources.collect files ∅ r.sources = .ok collected)
      (hask : (Interview.answerAll (!r.noPrompt) version.questions).run ⟨terminal, collected⟩ = (.error e, i)) :
      r.Gathers files terminal id t (.error e) t'
  | gathered {version : TemplateVersion} {collected : FlatAnswers} {i : Interview} {t' : Session σ}
      (hfetch : (Client.byId .templateVersion id).run t = (.ok version, t'))
      (hcollect : AnswerSources.collect files ∅ r.sources = .ok collected)
      (hask : (Interview.answerAll (!r.noPrompt) version.questions).run ⟨terminal, collected⟩ = (.ok (), i)) :
      r.Gathers files terminal id t (.ok i.answers) t'

/-- What the choice of targets comes to: the projects that the specifiers stand for, or the current project where
there are none. -/
inductive Aims (r : InstallRequest) (currentProject : Option String) (t : Session σ) :
    Except CommandFault (List String) → Session σ → Prop
  | unresolved {e : Fault} {t' : Session σ} (hresolve : (Session.resolveTargets r.targets).run t = (.error e, t')) :
      r.Aims currentProject t (.error (.api e)) t'
  | nowhere (hnone : r.targets = []) (hcurrent : currentProject = none) :
      r.Aims currentProject t (.error (.invalidArgument
        "no target given and no current project configured, use --target or --project")) t
  | current {project : String} (hnone : r.targets = []) (hcurrent : currentProject = some project) :
      r.Aims currentProject t (.ok [project]) t
  | resolved {ids : List String} {t' : Session σ} (hsome : r.targets ≠ [])
      (hresolve : (Session.resolveTargets r.targets).run t = (.ok ids, t')) : r.Aims currentProject t (.ok ids) t'

/-- What all the steps before the create come to: the first failure among them, or the app to create. -/
inductive Prepares (r : InstallRequest) (files : Files) (currentProject : Option String) (terminal : Terminal)
    (t : Session σ) : Except CommandFault App → Session σ → Prop
  | noVersion {e : CommandFault} {t' : Session σ} (hchoose : r.Chooses t (.error e) t') :
      r.Prepares files currentProject terminal t (.error e) t'
  | noAnswers {id : String} {e : CommandFault} {t₁ t' : Session σ} (hchoose : r.Chooses t (.ok id) t₁)
      (hgather : r.Gathers files terminal id t₁ (.error e) t') :
      r.Prepares files currentProject terminal t (.error e) t'
  | noTargets {id : String} {flat : FlatAnswers} {e : CommandFault} {t₁ t₂ t' : Session σ}
      (hchoose : r.Chooses t (.ok id) t₁) (hgather : r.Gathers files terminal id t₁ (.ok flat) t₂)
      (haim : r.Aims currentProject t₂ (.error e) t') : r.Prepares files currentProject terminal t (.error e) t'
  | noRecords {id : String} {flat : FlatAnswers} {ids : List String} {e : Fault} {t₁ t₂ t₃ t' : Session σ}
      (hchoose : r.Chooses t (.ok id) t₁) (hgather : r.Gathers files terminal id t₁ (.ok flat) t₂)
      (haim : r.Aims currentProject t₂ (.ok ids) t₃) (hanswers : (FlatAnswers.toAnswers flat).run t₃ = (.error e, t')) :
      r.Prepares files currentProject terminal t (.error (.api e)) t'
  | app {id : String} {flat : FlatAnswers} {ids : List String} {answers : List Answer} {t₁ t₂ t₃ t' : Session σ}
      (hchoose : r.Chooses t (.ok id) t₁) (hgather : r.Gathers files terminal id t₁ (.ok flat) t₂)
      (haim : r.Aims currentProject t₂ (.ok ids) t₃)
      (hanswers : (FlatAnswers.toAnswers flat).run t₃ = (.ok answers, t')) :
      r.Prepares files currentProject terminal t
        (.ok { name := r.name, templateVersionId := id, targets := App.targetsOf ids, answers }) t'

/-! ## The steps come to something -/

variable (r : InstallRequest) (files : Files) (currentProject : Option String) (terminal : Terminal) (id : String)
  (t : Session σ)

theorem chooses_total : ∃ o t', r.Chooses t o t' := by
  rcases hlookup : (Client.lookup .template r.template ∅).run t with ⟨e | template, t'⟩
  · exact ⟨_, _, .unknown hlookup⟩
  · cases hlink : Dict.get? (Template.versionLinks template) (r.wanted template) with
    | none => exact ⟨_, _, .notOffered hlookup hlink⟩
    | some link => exact ⟨_, _, .chosen hlookup hlink⟩

theorem gathers_total : ∃ o t', r.Gathers files terminal id t o t' := by
  rcases hfetch : (Client.byId .templateVersion id).run t with ⟨e | version, t'⟩
  · exact ⟨_, _, .missing hfetch⟩
  cases hcollect : AnswerSources.collect files ∅ r.sources with
  | error e => exact ⟨_, _, .unread hfetch hcollect⟩
  | ok collected =>
    rcases hask : (Interview.answerAll (!r.noPrompt) (TemplateVersion.questions version)).run ⟨terminal, collected⟩
      with ⟨e | _, i⟩
    · exact ⟨_, _, .unanswered hfetch hcollect hask⟩
    · exact ⟨_, _, .gathered hfetch hcollect hask⟩

theorem aims_total : ∃ o t', r.Aims currentProject t o t' := by
  by_cases hnone : r.targets = []
  · cases hcurrent : currentProject with
    | none => exact ⟨_, _, .nowhere hnone rfl⟩
    | some project => exact ⟨_, _, .current hnone rfl⟩
  · rcases hresolve : (Session.resolveTargets r.targets).run t with ⟨e | ids, t'⟩
    · exact ⟨_, _, .unresolved hresolve⟩
    · exact ⟨_, _, .resolved hnone hresolve⟩

theorem prepares_total : ∃ o t', r.Prepares files currentProject terminal t o t' := by
  obtain ⟨e | id, t₁, hchoose⟩ := r.chooses_total t
  · exact ⟨_, _, .noVersion hchoose⟩
  obtain ⟨e | flat, t₂, hgather⟩ := r.gathers_total files terminal id t₁
  · exact ⟨_, _, .noAnswers hchoose hgather⟩
  obtain ⟨e | ids, t₃, haim⟩ := r.aims_total currentProject t₂
  · exact ⟨_, _, .noTargets hchoose hgather haim⟩
  rcases hanswers : (FlatAnswers.toAnswers flat).run t₃ with ⟨e | answers, t'⟩
  · exact ⟨_, _, .noRecords hchoose hgather haim hanswers⟩
  · exact ⟨_, _, .app hchoose hgather haim hanswers⟩

end Steps

end InstallRequest

/-! ## The command takes these steps -/

namespace Console

variable {σ : Type} [Client σ] {files : Files} {currentProject : Option String} {r : InstallRequest} {c : Console σ}

/-- The first step of an install. -/
def chooseVersion (r : InstallRequest) : Attempt CommandFault (Console σ) String := do
  let template : Template ← remote (Client.lookup .template r.template ∅)
  judged (TemplateVersion.select template r.version r.template)

/-- The second one. -/
def gatherAnswers (files : Files) (r : InstallRequest) (id : String) :
    Attempt CommandFault (Console σ) FlatAnswers := do
  let version : TemplateVersion ← remote (Client.byId .templateVersion id)
  let collected ← Attempt.ofExcept (AnswerSources.collect files ∅ r.sources)
  interview (!r.noPrompt) version.questions collected

theorem newApp_eq (files : Files) (currentProject : Option String) (r : InstallRequest) :
    (newApp files currentProject r : Attempt CommandFault (Console σ) App) = (do
      let templateVersionId ← chooseVersion r
      let flat ← gatherAnswers files r templateVersionId
      let projectIds ← installTargets currentProject r.targets
      let answers ← remote (FlatAnswers.toAnswers flat)
      return { name := r.name, templateVersionId, targets := App.targetsOf projectIds, answers }) := by
  simp only [newApp, chooseVersion, gatherAnswers, bind_assoc]

theorem select_eq (template : Template) (r : InstallRequest) :
    TemplateVersion.select template r.version r.template =
      (template.versionLinks.get? (r.wanted template)).elim (.error (.invalidVersion (r.wanted template) r.template))
        fun link => .ok (TemplateVersion.idOfLink link) := by
  have hwanted : (r.version.filter fun v => !v.isEmpty).getD template.defaultVersion = r.wanted template := by
    unfold InstallRequest.wanted
    cases r.version with
    | none => rfl
    | some version => cases h : version.isEmpty <;> simp [Option.filter, h]
  unfold TemplateVersion.select
  rw [hwanted]
  dsimp only
  cases template.versionLinks.get? (r.wanted template) <;> rfl

theorem run_chooseVersion {o : Except CommandFault String} {t : Session σ} (h : r.Chooses c.session o t) :
    (chooseVersion r).run c = (o, { c with session := t }) := by
  unfold chooseVersion
  cases h with
  | unknown hlookup => exact Attempt.run_bind_error (run_remote_of_error hlookup)
  | notOffered hlookup hlink =>
    rw [Attempt.run_bind_ok (run_remote_of_ok hlookup), select_eq, hlink]
    rfl
  | chosen hlookup hlink =>
    rw [Attempt.run_bind_ok (run_remote_of_ok hlookup), select_eq, hlink]
    rfl

theorem run_gatherAnswers {id : String} {o : Except CommandFault FlatAnswers} {t : Session σ}
    (h : r.Gathers files c.terminal id c.session o t) :
    ∃ terminal, (gatherAnswers files r id).run c = (o, { c with session := t, terminal }) := by
  unfold gatherAnswers
  cases h with
  | missing hfetch => exact ⟨_, Attempt.run_bind_error (run_remote_of_error hfetch)⟩
  | unread hfetch hcollect =>
    rw [Attempt.run_bind_ok (run_remote_of_ok hfetch), hcollect]
    exact ⟨_, rfl⟩
  | unanswered hfetch hcollect hask | gathered hfetch hcollect hask =>
    rw [Attempt.run_bind_ok (run_remote_of_ok hfetch), hcollect, Attempt.run_bind_ok (Attempt.run_ofExcept _ _),
      run_interview, hask]
    exact ⟨_, rfl⟩

theorem run_installTargets {o : Except CommandFault (List String)} {t : Session σ}
    (h : r.Aims currentProject c.session o t) :
    (installTargets currentProject r.targets).run c = (o, { c with session := t }) := by
  unfold installTargets
  cases h with
  | unresolved hresolve => exact Attempt.run_bind_error (run_remote_of_error hresolve)
  | nowhere hnone hcurrent =>
    rw [hnone, hcurrent]
    rfl
  | current hnone hcurrent =>
    rw [hnone, hcurrent]
    rfl
  | @resolved ids _ hsome hresolve =>
    have hids : ids ≠ [] := fun hnil => hsome ((Session.resolved_eq_nil_iff hresolve).1 hnil)
    obtain ⟨id, rest, rfl⟩ := List.exists_cons_of_ne_nil hids
    rw [Attempt.run_bind_ok (run_remote_of_ok hresolve)]
    rfl

/-- The app of an install is made by the steps that prepare it. -/
theorem run_newApp {o : Except CommandFault App} {t : Session σ}
    (h : r.Prepares files currentProject c.terminal c.session o t) :
    ∃ terminal, (newApp files currentProject r).run c = (o, { c with session := t, terminal }) := by
  rw [newApp_eq]
  cases h with
  | noVersion hchoose => exact ⟨_, Attempt.run_bind_error (run_chooseVersion hchoose)⟩
  | @noAnswers _ _ t₁ _ hchoose hgather =>
    obtain ⟨terminal, hg⟩ := run_gatherAnswers (c := { c with session := t₁ }) hgather
    rw [Attempt.run_bind_ok (run_chooseVersion hchoose)]
    exact ⟨terminal, Attempt.run_bind_error hg⟩
  | @noTargets _ _ _ t₁ t₂ _ hchoose hgather haim =>
    obtain ⟨terminal, hg⟩ := run_gatherAnswers (c := { c with session := t₁ }) hgather
    have ha := run_installTargets (c := { c with session := t₂, terminal }) haim
    rw [Attempt.run_bind_ok (run_chooseVersion hchoose), Attempt.run_bind_ok hg]
    exact ⟨terminal, Attempt.run_bind_error ha⟩
  | @noRecords _ _ _ _ t₁ t₂ t₃ _ hchoose hgather haim hanswers =>
    obtain ⟨terminal, hg⟩ := run_gatherAnswers (c := { c with session := t₁ }) hgather
    have ha := run_installTargets (c := { c with session := t₂, terminal }) haim
    have hr := run_remote_of_error (c := { c with session := t₃, terminal }) hanswers
    rw [Attempt.run_bind_ok (run_chooseVersion hchoose), Attempt.run_bind_ok hg, Attempt.run_bind_ok ha]
    exact ⟨terminal, Attempt.run_bind_error hr⟩
  | @app _ _ _ _ t₁ t₂ t₃ _ hchoose hgather haim hanswers =>
    obtain ⟨terminal, hg⟩ := run_gatherAnswers (c := { c with session := t₁ }) hgather
    have ha := run_installTargets (c := { c with session := t₂, terminal }) haim
    have hr := run_remote_of_ok (c := { c with session := t₃, terminal }) hanswers
    rw [Attempt.run_bind_ok (run_chooseVersion hchoose), Attempt.run_bind_ok hg, Attempt.run_bind_ok ha,
      Attempt.run_bind_ok hr]
    exact ⟨terminal, rfl⟩

/-- Whatever an install comes to before it writes, these steps have come to. -/
theorem prepares_newApp {o : Except CommandFault App} {c' : Console σ}
    (h : (newApp files currentProject r).run c = (o, c')) :
    r.Prepares files currentProject c.terminal c.session o c'.session := by
  obtain ⟨o', t, hprepares⟩ := r.prepares_total files currentProject c.terminal c.session
  obtain ⟨terminal, hrun⟩ := run_newApp hprepares
  cases h.symm.trans hrun
  exact hprepares

theorem id_newApp {a : App} {c' : Console σ} (h : (newApp files currentProject r).run c = (.ok a, c')) : a.id = "" := by
  cases prepares_newApp h with
  | app => rfl

end Console

/-! ## The create and the wait -/

/-- The ID that the next app without one gets. -/
def Store.nextAppId (s : Store) : String := Kind.collection .app ++ "-" ++ toString (s.idCount + 1)

/-- Waiting is work on the client alone. -/
theorem Session.waitAtMost_eq_onClient {σ : Type} [Client σ] (id : String) (interval : Duration) (polls : Nat) :
    (App.waitAtMost id interval polls : Attempt Fault (Session σ) App) =
      onClient (App.waitAtMost id interval polls) := by
  induction polls with
  | zero => rfl
  | succ polls ih =>
    rw [App.waitAtMost, App.waitAtMost, onClient_bind]
    refine congrArg (Client.sleep interval >>= ·) (funext fun _ => ?_)
    rw [onClient_bind]
    refine congrArg (Client.byId .app id >>= ·) (funext fun a => ?_)
    rw [ih]
    cases InstallState.observe a <;> rfl

theorem Session.waitForInstall_eq_onClient {σ : Type} [Client σ] (id : String) (policy : PollPolicy) :
    (App.waitForInstall id policy : Attempt Fault (Session σ) App) = onClient (App.waitForInstall id policy) :=
  waitAtMost_eq_onClient id policy.interval policy.maxPolls

theorem Store.placed_app {a : App} (hid : a.id = "") (s : Store) : s.placed .app a = { a with id := s.nextAppId } :=
  if_pos (String.isEmpty_iff.2 hid)

/-- The wait of an install for the app that it has just created. -/
def InstallRequest.awaited (r : InstallRequest) (a : App) (s : Store) : Except Fault App × Store :=
  (App.waitForInstall s.nextAppId { interval := ⟨2, 0⟩, timeout := ⟨r.timeout, 0⟩ }).run (s.create .app a).2

/-- A new app is stored, and then waited for. -/
theorem App.run_install_eq {r : InstallRequest} {a : App} {t : Session Store} {o : Except Fault App} {s' : Store}
    (hid : a.id = "") (h : r.awaited a t.client = (o, s')) :
    (a.install { timeout := ⟨r.timeout, 0⟩ }).run t = (o, { t with client := s' }) := by
  have hcreate : (Client.create .app a).run t =
      (.ok { a with id := t.client.nextAppId }, { t with client := (t.client.create .app a).2 }) := by
    rw [← Store.placed_app hid]
    exact congrArg (fun u => (Except.ok u, { t with client := (t.client.create .app a).2 }))
      (congrArg Prod.fst (Store.create_eq .app a t.client))
  unfold install
  unfold InstallRequest.awaited at h
  rw [Attempt.run_bind_ok hcreate, Session.waitForInstall_eq_onClient, Session.run_onClient]
  dsimp only
  rw [h]

section Wait

variable {r : InstallRequest} {a : App} {s s' : Store} {o : Except Fault App} (h : r.awaited a s = (o, s'))
include h

theorem kept_awaited : (s.create .app a).2.Kept s' :=
  (App.keeps_waitForInstall Store.readsKeep s.nextAppId _).of_run h

/-- The create is all that is logged, -/
theorem log_awaited : s'.log = s.log ++ [.created .app a] := by
  rw [(kept_awaited h).log, Store.log_create]

/-- and all that is stored is the app under its new ID. -/
theorem records_awaited (hid : a.id = "") : s'.records = (s.insert .app { a with id := s.nextAppId }).records := by
  rw [(kept_awaited h).records, Store.create_eq, Store.placed_app hid]
  rfl

end Wait

namespace Console

variable {files : Files} {currentProject : Option String} {r : InstallRequest} {c c' : Console Store}

/-- An install that has its app creates it, and ends as the wait for it does. Only a success is printed. -/
theorem run_install_of_ok (format : Format) {a : App} (hid : a.id = "")
    (h : (newApp files currentProject r).run c = (.ok a, c')) :
    ∃ o s' c'', r.awaited a c'.session.client = (o, s') ∧
      (install files currentProject format r).run c = ((o.mapError .api).map fun _ => (), c'') ∧
      c''.session.client = s' ∧ ∀ e, o = .error e → c''.output = c'.output := by
  rcases hwait : r.awaited a c'.session.client with ⟨o, s'⟩
  have hrun := App.run_install_eq hid hwait
  unfold install
  rw [Attempt.run_bind_ok h]
  cases o with
  | error e => exact ⟨_, _, _, rfl, Attempt.run_bind_error (run_remote_of_error hrun), rfl, fun _ _ => rfl⟩
  | ok b => exact ⟨_, _, _, rfl, Attempt.run_bind_ok (run_remote_of_ok hrun), rfl, fun _ he => by cases he⟩

end Console

/-! ## The install as a whole -/

/-- What an install did on the store `s` that created `a`, having made it ready on the session `t`. -/
structure InstallRequest.Installed (r : InstallRequest) (currentProject : Option String) (s : Store) (t : Session Store)
    (a : App) (result : Except CommandFault Unit) (s' : Store) : Prop where
  unnumbered : a.id = ""
  named : a.name = r.name
  aimed : a.targets ≠ []
  /-- Without specifiers the app goes to the current project alone. -/
  current : r.targets = [] → ∃ project, currentProject = some project ∧ a.targets = [{ projectId := project }]
  /-- The targets are those that the specifiers stand for, in their order. -/
  resolved : s.Unscripted .cluster → s.Unscripted .project → r.targets ≠ [] →
    ∃ ids, r.targets.mapM s.projectIdOf = .ok ids ∧ a.targets = App.targetsOf ids
  logged : s'.log = s.log ++ [.created .app a]
  stored : s'.records = (s.insert .app { a with id := s.nextAppId }).records
  result : result = ((r.awaited a t.client).1.mapError .api).map fun _ => ()

namespace InstallRequest

variable {r : InstallRequest} {files : Files} {currentProject : Option String} {terminal : Terminal}
  {t t' : Session Store}

theorem Chooses.steady {o : Except CommandFault String} (h : r.Chooses t o t') : t.Steady t' := by
  cases h with
  | unknown hlookup | notOffered hlookup | chosen hlookup => exact (Session.steady_lookup .template _ _).of_run hlookup

theorem Gathers.steady {id : String} {o : Except CommandFault FlatAnswers} (h : r.Gathers files terminal id t o t') :
    t.Steady t' := by
  cases h with
  | missing hfetch | unread hfetch | unanswered hfetch | gathered hfetch =>
    exact (Session.steady_answer (c := .byId .templateVersion id) trivial).of_run hfetch

theorem Aims.steady {o : Except CommandFault (List String)} (h : r.Aims currentProject t o t') : t.Steady t' := by
  cases h with
  | unresolved hresolve | resolved _ hresolve => exact (Session.steady_resolveTargets r.targets).of_run hresolve
  | nowhere | current => exact .refl t

theorem Aims.ne_nil {ids : List String} (h : r.Aims currentProject t (.ok ids) t') : ids ≠ [] := by
  cases h with
  | current => simp
  | resolved hsome hresolve => exact fun hnil => hsome ((Session.resolved_eq_nil_iff hresolve).1 hnil)

theorem Aims.current_of_nil {ids : List String} (h : r.Aims currentProject t (.ok ids) t') (hnone : r.targets = []) :
    ∃ project, currentProject = some project ∧ ids = [project] := by
  cases h with
  | current _ hcurrent => exact ⟨_, hcurrent, rfl⟩
  | resolved hsome => exact absurd hnone hsome

theorem Aims.mapM_projectIdOf {s : Store} {ids : List String} (h : r.Aims currentProject t (.ok ids) t')
    (hs : Session.Sound s t) (hsome : r.targets ≠ []) : r.targets.mapM s.projectIdOf = .ok ids := by
  cases h with
  | current hnone => exact absurd hnone hsome
  | resolved _ hresolve =>
    obtain ⟨t₁, hrun, -⟩ := Session.run_resolveTargets hs r.targets
    exact congrArg Prod.fst (hrun.symm.trans hresolve)

end InstallRequest

namespace Console

variable {files : Files} {currentProject : Option String} {r : InstallRequest} {s : Store} {c : Console Store}
  {t : Session Store}

/-- An install that fails before the create has only read. -/
theorem run_install_of_error (format : Format) {e : CommandFault}
    (h : r.Prepares files currentProject c.terminal c.session (.error e) t) :
    ∃ c', (install files currentProject format r).run c = (.error e, c') ∧ c.Quiet c' := by
  obtain ⟨terminal, hnew⟩ := run_newApp h
  exact ⟨_, Attempt.run_bind_error hnew, (quiet_newApp files currentProject r).of_run hnew⟩

/-- An install that gets as far as the create makes it, on a session that is new. -/
theorem installed (format : Format) {a : App} (hs : c.session = { client := s })
    (h : r.Prepares files currentProject c.terminal c.session (.ok a) t) :
    ∃ o c', (install files currentProject format r).run c = (o, c') ∧
      r.Installed currentProject s t a o c'.session.client := by
  obtain ⟨terminal, hnew⟩ := run_newApp h
  obtain ⟨o, s', c', hwait, hrun, rfl, -⟩ := run_install_of_ok format (id_newApp hnew) hnew
  have hkept : s.Kept t.client := by
    have hread : c.session.client.Kept t.client := ((quiet_newApp files currentProject r).of_run hnew).kept
    rwa [hs] at hread
  have hnext : t.client.nextAppId = s.nextAppId := by rw [Store.nextAppId, hkept.idCount, Store.nextAppId]
  refine ⟨_, _, hrun, ?_⟩
  rw [hs] at h
  cases h with
  | @app id flat ids answers t₁ t₂ t₃ _ hchoose hgather haim hanswers =>
    constructor
    case unnumbered => rfl
    case named => rfl
    case aimed => simpa [App.targetsOf] using haim.ne_nil
    case current =>
      intro hnone
      obtain ⟨project, hcurrent, rfl⟩ := haim.current_of_nil hnone
      exact ⟨project, hcurrent, rfl⟩
    case resolved =>
      intro hc hp hsome
      have hsound := Session.sound_fresh (.refl hc hp)
      have hsound₂ := (hgather.steady s (hchoose.steady s hsound).1).1
      exact ⟨ids, haim.mapM_projectIdOf hsound₂ hsome, rfl⟩
    case logged => rw [log_awaited hwait, hkept.log]
    case stored =>
      rw [records_awaited hwait rfl, hnext, Store.insert, hkept.records]
      rfl
    case result => rw [hwait]

end Console

/-- An install comes to a failure or to an app before it writes anything (`Prepares`). With the failure it ends, and
the records and the log are as they were. The app it creates, as its only change to either, and then it ends as
the wait for the app does. -/
theorem Invocation.run_install {files : Files} {config : Config} {i : Invocation} {r : InstallRequest}
    {c : Console Store} (hcmd : i.command = some (.install r)) :
    (∃ o t, r.Prepares files config.currentProject c.terminal c.session.renew o t) ∧
      (∀ e t, r.Prepares files config.currentProject c.terminal c.session.renew (.error e) t →
        ((i.run files config).run c).1 = .error e ∧
          ((i.run files config).run c).2.session.client.records = c.session.client.records ∧
          ((i.run files config).run c).2.session.client.log = c.session.client.log) ∧
      ∀ a t, r.Prepares files config.currentProject c.terminal c.session.renew (.ok a) t →
        r.Installed config.currentProject c.session.client t a ((i.run files config).run c).1
          ((i.run files config).run c).2.session.client := by
  have hrun : (i.run files config).run c =
      (Console.install files config.currentProject i.format r).run { c with session := c.session.renew } := by
    unfold run
    rw [hcmd]
    rfl
  rw [hrun]
  refine ⟨InstallRequest.prepares_total .., fun e t h => ?_, fun a t h => ?_⟩
  · obtain ⟨c', hfail, hquiet⟩ := Console.run_install_of_error i.format (c := { c with session := c.session.renew }) h
    rw [hfail]
    exact ⟨rfl, hquiet.kept.records, hquiet.kept.log⟩
  · obtain ⟨o, c', hok, hinstalled⟩ := Console.installed i.format (c := { c with session := c.session.renew }) rfl h
    rw [hok]
    exact hinstalled

/-- A template with one version, -/
def wikiTemplate : Template :=
  { id := "wiki", name := "wiki", defaultVersion := "1.0.0", versionLinks := Dict.ofList [("1.0.0", "/v/wiki-1.0.0")] }

/-- which asks one question, that has a default. -/
def wikiVersion : TemplateVersion :=
  { id := "wiki-1.0.0", version := "1.0.0", questions := [{ key := "size", default := "1" }] }

/-- What the app that is created from it will look like once it is fetched. -/
def installedDocs : App :=
  { id := "multiclusterapps-1", name := "docs",
    status := { conditions := [{ type := "installed", status := "true" }] } }

def wikiStore : Store :=
  ((({} : Store).insert .template wikiTemplate).insert .templateVersion wikiVersion).script .app "multiclusterapps-1"
    [installedDocs]

/-- The app that is created. -/
def docs : App :=
  { name := "docs"
    templateVersionId := "wiki-1.0.0"
    targets := [{ projectId := "p-1" }]
    answers := [{ values := Dict.ofList [("size", "1")] }] }

def installDocs (version : Option String) (timeout : Nat) : InstallRequest :=
  { template := "wiki", name := "docs", version, noPrompt := true, timeout }

/-- What the install does to that store, with a current project. -/
def runInstallDocs (version : Option String) (timeout : Nat) : Except CommandFault Unit × Console Store :=
  (({ command := some (.install (installDocs version timeout)) } : Invocation).run noFiles
    { project := some "p-1" }).run
    { session := { client := wikiStore } }

/-- All that is asked for before the create is there. -/
theorem prepares_installDocs (timeout : Nat) :
    ∃ t, (installDocs none timeout).Prepares noFiles (some "p-1") {} ({ client := wikiStore } : Session Store)
      (.ok docs) t := by
  have hlookup : (Client.lookup .template "wiki" ∅).run ({ client := wikiStore } : Session Store) =
      (.ok wikiTemplate, { client := wikiStore }) := by cbv
  have hid : TemplateVersion.idOfLink "/v/wiki-1.0.0" = "wiki-1.0.0" := by cbv
  have hlink : wikiTemplate.versionLinks.get? "1.0.0" = some "/v/wiki-1.0.0" := by cbv
  have hchoose : (installDocs none timeout).Chooses ({ client := wikiStore } : Session Store) (.ok "wiki-1.0.0")
      { client := wikiStore } := by
    rw [← hid]
    exact .chosen hlookup hlink
  have hfetch : (Client.byId .templateVersion "wiki-1.0.0").run ({ client := wikiStore } : Session Store) =
      (.ok wikiVersion, { client := wikiStore.countFetch .templateVersion "wiki-1.0.0" }) := Prod.ext (by cbv) rfl
  have hask : (Interview.answerAll false wikiVersion.questions).run ⟨{}, ∅⟩ =
      (.ok (), ⟨{}, Dict.ofList [("size", "1")]⟩) := by
    cbv
  have hanswers : (FlatAnswers.toAnswers (Dict.ofList [("size", "1")])).run
      ({ client := wikiStore.countFetch .templateVersion "wiki-1.0.0" } : Session Store) = (.ok docs.answers, _) :=
    Prod.ext (by cbv) rfl
  exact ⟨_, .app hchoose (.gathered hfetch rfl hask) (.current rfl rfl) hanswers⟩

/-- An app is installed; one that is not waited for is created all the same; a version that is not offered leaves
everything as it was. -/
theorem Invocation.run_install_wiki :
    (∃ t, (installDocs none 60).Installed (some "p-1") wikiStore t docs (.ok ())
      (runInstallDocs none 60).2.session.client) ∧
      (∃ t, (installDocs none 0).Installed (some "p-1") wikiStore t docs (.error (.api .timeout))
        (runInstallDocs none 0).2.session.client) ∧
      (runInstallDocs (some "2.0.0") 60).1 = .error (.api (.invalidVersion "2.0.0" "wiki")) ∧
      (runInstallDocs (some "2.0.0") 60).2.session.client.log = [] := by
  have hproject : ({ project := some "p-1" } : Config).currentProject = some "p-1" := by cbv
  have h (version : Option String) (timeout : Nat) := @run_install noFiles { project := some "p-1" }
    { command := some (.install (installDocs version timeout)) } (installDocs version timeout)
    { session := { client := wikiStore } } rfl
  rw [hproject] at h
  have hcreates (timeout : Nat) {result : Except CommandFault Unit}
      (hresult : (runInstallDocs none timeout).1 = result) :
      ∃ t, (installDocs none timeout).Installed (some "p-1") wikiStore t docs result
        (runInstallDocs none timeout).2.session.client := by
    obtain ⟨t, hprepares⟩ := prepares_installDocs timeout
    rw [← hresult]
    exact ⟨t, (h none timeout).2.2 docs t hprepares⟩
  have hlookup : (Client.lookup .template "wiki" ∅).run ({ client := wikiStore } : Session Store) =
      (.ok wikiTemplate, { client := wikiStore }) := by cbv
  have hlink : wikiTemplate.versionLinks.get? "2.0.0" = none := by cbv
  obtain ⟨hresult, -, hlog⟩ := (h (some "2.0.0") 60).2.1 _ _ (.noVersion (.notOffered hlookup hlink))
  -- the time limits are counted in polls first, since evaluation gets stuck on the nanoseconds
  have hpolls : ({ timeout := ⟨60, 0⟩ } : PollPolicy).maxPolls = 30 := by decide
  have hnoPolls : ({ timeout := ⟨0, 0⟩ } : PollPolicy).maxPolls = 0 := by decide
  have hinstalled : (runInstallDocs none 60).1 = .ok () := by
    simp only [runInstallDocs, installDocs, run, Option.getD_some, Command.run, Console.install, App.install,
      App.waitForInstall, hpolls]
    cbv
  have htimeout : (runInstallDocs none 0).1 = .error (.api .timeout) := by
    simp only [runInstallDocs, installDocs, run, Option.getD_some, Command.run, Console.install, App.install,
      App.waitForInstall, hnoPolls]
    cbv
  exact ⟨hcreates 60 hinstalled, hcreates 0 htimeout, hresult, hlog⟩

end MultiCluster
