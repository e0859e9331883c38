/-
What an upgrade proposes: the app with its new answers, version and targets, all of which is only read (`proposal`)
and then sent as one update (`upgrade_eq_proposal`). On a store where template versions are not scripted, and with a
session that agrees with it, the proposal depends on the records and the links alone (`run_proposal`,
`Store.proposed`): the template version of the app is the one that is stored, its template is what its link leads to,
and the check fails for just the versions that the template has no link for (`run_checkVersion`).
-/
import MultiCluster.Proofs.Answers.Filling
import MultiCluster.Proofs.Lifecycle.Upgrade
namespace MultiCluster

/-! ## Proposals -/

namespace App

/-- The app at another version, with these answers and, if there are any projects, with these targets. -/
def moved (app : App) (answers : List Answer) (current : TemplateVersion) (version : String)
    (projectIds : List String) :
    App :=
  { app with
    answers
    templateVersionId := TemplateVersion.replaceVersion current.id current.version version
    targets := if projectIds.isEmpty then app.targets else targetsOf projectIds }

variable {σ : Type} [Client σ]

/-- The app that an upgrade sends. -/
def proposal (app : App) (flat : FlatAnswers) (version : String) (specifiers : List String) :
    Attempt Fault (Session σ) App := do
  let answers ← flat.toAnswers
  let current : TemplateVersion ← Client.byId .templateVersion app.templateVersionId
  checkVersion current version
  let projectIds ← Session.resolveTargets specifiers
  return app.moved answers current version projectIds

theorem upgrade_eq_proposal (app : App) (flat : FlatAnswers) (version : String) (specifiers : List String) :
    (app.upgrade flat version specifiers : Attempt Fault (Session σ) App) =
      app.proposal flat version specifiers >>= fun a => Client.update .app a := by
  unfold upgrade proposal moved
  simp only [bind_assoc, pure_bind]

theorem run_proposal_eq_ok {app a : App} {flat : FlatAnswers} {version : String} {specifiers : List String}
    {t t' : Session σ} (h : (app.proposal flat version specifiers).run t = (.ok a, t')) :
    ∃ answers t₁ current t₂ projectIds, (FlatAnswers.toAnswers flat).run t = (.ok answers, t₁) ∧
      (Client.byId .templateVersion app.templateVersionId).run t₁ = (.ok current, t₂) ∧
      a = app.moved answers current version projectIds := by
  obtain ⟨answers, t₁, h₁, h⟩ := Attempt.run_bind_eq_ok_iff.1 h
  obtain ⟨current, t₂, h₂, h⟩ := Attempt.run_bind_eq_ok_iff.1 h
  obtain ⟨_, t₃, -, h⟩ := Attempt.run_bind_eq_ok_iff.1 h
  obtain ⟨projectIds, t₄, -, h⟩ := Attempt.run_bind_eq_ok_iff.1 h
  cases h
  exact ⟨answers, t₁, current, t₂, projectIds, h₁, h₂, rfl⟩

/-- A proposal only reads. -/
theorem keeps_proposal {ρ : Type} {view : σ → ρ} {R : ρ → ρ → Prop} [IsPreorder ρ R]
    (h : Client.ReadsKeep view R) (app : App) (flat : FlatAnswers) (version : String) (specifiers : List String) :
    (app.proposal flat version specifiers : Attempt Fault (Session σ) App).Keeps (view ∘ Session.client) R := by
  refine (FlatAnswers.keeps_toAnswers h flat).bind fun answers => ?_
  refine .bind (Session.readsKeep h (.byId .templateVersion app.templateVersionId) trivial) fun current => ?_
  refine (keeps_checkVersion (Session.readsKeep h) current version).bind fun _ => ?_
  exact (Session.keeps_resolveTargets h specifiers).bind fun _ => .pure _

end App

/-! ## On a store -/

namespace Store

variable {s t : Store}

/-! ## What is there -/

/-- The record with that ID. -/
def stored (kind : Kind) (id : String) (s : Store) : Except Fault kind.Record :=
  (s.get? kind id).elim (.error (.notFound kind id)) .ok

theorem stored_eq_ok {kind : Kind} {id : String} {r : kind.Record} :
    s.stored kind id = .ok r ↔ s.get? kind id = some r := by
  unfold stored
  cases s.get? kind id with
  | none => simp
  | some r' =>
    show Except.ok r' = Except.ok r ↔ some r' = some r
    rw [Except.ok.injEq, Option.some.injEq]

/-- The template that a link leads to. -/
def templateAt (url : String) (s : Store) : Except Fault Template := do
  (Kind.ofTree? .template (← s.link url)).elim (.error .decode) .ok

/-- Refuses a version that the template of a template version does not offer. -/
def checked (current : TemplateVersion) (version : String) (s : Store) : Except Fault Unit :=
  match current.links.get? "template" with
  | none => .ok ()
  | some url => do
    let template ← s.templateAt url
    if template.versionLinks.contains version then .ok () else .error (.invalidVersion version template.name)

theorem stored_congr {kind : Kind} (h : t.records.get kind = s.records.get kind) (id : String) :
    t.stored kind id = s.stored kind id := by
  rw [stored, stored, get?_congr h]

theorem Kept.stored_eq {kind : Kind} (h : s.Kept t) (id : String) : t.stored kind id = s.stored kind id :=
  stored_congr (congrArg (·.get kind) h.records) id

theorem templateAt_congr (h : t.links = s.links) (url : String) : t.templateAt url = s.templateAt url := by
  rw [templateAt, templateAt, link, link, h]

theorem checked_congr (h : t.links = s.links) (current : TemplateVersion) (version : String) :
    t.checked current version = s.checked current version := by
  unfold checked
  split
  · rfl
  · rw [templateAt_congr h]

/-- Template versions with one link are checked against one template. -/
theorem checked_of_link {current next : TemplateVersion}
    (h : next.links.get? "template" = current.links.get? "template") (version : String) :
    s.checked next version = s.checked current version := by
  rw [checked, checked, h]

end Store

/-! ## Runs -/

theorem Session.run_byId {kind : Kind} {id : String} {t : Session Store} (h : t.client.scriptOf kind id = []) :
    (Client.byId kind id).run t = (t.client.stored kind id, { t with client := t.client.countFetch kind id }) := by
  have hstore : (Client.byId kind id).run t =
      ((t.client.byId kind id).1, { t with client := (t.client.byId kind id).2 }) := rfl
  rw [hstore, Store.byId_of_unscripted h]
  rfl

theorem Session.run_followTemplate (url : String) (t : Session Store) :
    (Client.follow (Kind.ofTree? .template) url).run t = (t.client.templateAt url, t) := by
  have hanswer : (Client.answer (.link url)).run t = (t.client.link url, t) := rfl
  unfold Client.follow Store.templateAt
  rcases hlink : t.client.link url with e | tree <;> rw [hlink] at hanswer
  · exact Attempt.run_bind_error hanswer
  · rw [Attempt.run_bind_ok hanswer]
    show _ = ((Kind.ofTree? .template tree).elim (Except.error Fault.decode) Except.ok, t)
    cases Kind.ofTree? .template tree <;> rfl

/-- The update of an app that is there. -/
theorem Session.run_update_of_stored {a : App} {t : Session Store} (h : ∃ old, t.client.get? .app a.id = some old) :
    (Client.update .app a).run t = (.ok a, { t with client := t.client.replayed (.updated .app a) }) := by
  obtain ⟨old, hold⟩ := h
  have hid : t.client.get? .app (Kind.id .app a) = some old := hold
  rw [run_update, Store.update, hid]
  rfl

theorem App.run_checkVersion (current : TemplateVersion) (version : String) (t : Session Store) :
    (checkVersion current version).run t = (t.client.checked current version, t) := by
  unfold checkVersion Store.checked
  cases current.links.get? "template" with
  | none => rfl
  | some url =>
    have hfollow := Session.run_followTemplate url t
    dsimp only
    rcases htemplate : t.client.templateAt url with e | template <;> rw [htemplate] at hfollow
    · exact Attempt.run_bind_error hfollow
    · rw [Attempt.run_bind_ok hfollow]
      show Attempt.run (if template.versionLinks.contains version then pure () else Attempt.fail _) t =
        ((if template.versionLinks.contains version then Except.ok () else Except.error _), t)
      split <;> rfl

/-! ## Proposals by the records -/

namespace Store

variable {s t : Store}

/-- The app that an upgrade sends, as far as the records and the links decide it. -/
def proposed (app : App) (flat : FlatAnswers) (version : String) (specifiers : List String) (s : Store) :
    Except Fault App := do
  let answers ← (FlatAnswers.fillWith s.scopeIdOf flat.toList ∅).map Buckets.toAnswers
  let current ← s.stored .templateVersion app.templateVersionId
  s.checked current version
  let projectIds ← specifiers.mapM s.projectIdOf
  return app.moved answers current version projectIds

theorem proposed_eq_ok_iff {app a : App} {flat : FlatAnswers} {version : String} {specifiers : List String} :
    s.proposed app flat version specifiers = .ok a ↔ ∃ buckets current projectIds,
      FlatAnswers.fillWith s.scopeIdOf flat.toList ∅ = .ok buckets ∧
      s.get? .templateVersion app.templateVersionId = some current ∧ s.checked current version = .ok () ∧
      specifiers.mapM s.projectIdOf = .ok projectIds ∧ a = app.moved buckets.toAnswers current version projectIds := by
  constructor
  · intro h
    obtain ⟨answers, hanswers, h⟩ := bind_eq_ok h
    obtain ⟨buckets, hbuckets, rfl⟩ := map_eq_ok hanswers
    obtain ⟨current, hcurrent, h⟩ := bind_eq_ok h
    obtain ⟨_, hcheck, h⟩ := bind_eq_ok h
    obtain ⟨projectIds, hids, h⟩ := bind_eq_ok h
    cases h
    exact ⟨buckets, current, projectIds, hbuckets, stored_eq_ok.1 hcurrent, hcheck, hids, rfl⟩
  · rintro ⟨buckets, current, projectIds, hbuckets, hcurrent, hcheck, hids, rfl⟩
    rw [proposed, hbuckets, stored_eq_ok.2 hcurrent, hids]
    show (do s.checked current version; _) = _
    rw [hcheck]
    rfl

end Store

namespace App

section Runs

variable {s : Store} {t t' : Session Store} (hs : Session.Sound s t) (hk : s.Kept t.client)
  (hu : s.Unscripted .templateVersion)
include hs hk hu

theorem run_proposal (app : App) (flat : FlatAnswers) (version : String) (specifiers : List String) :
    ∃ u, (app.proposal flat version specifiers).run t = (s.proposed app flat version specifiers, u) ∧
    s.Kept u.client := by
  suffices h : ∃ u, (app.proposal flat version specifiers).run t = (s.proposed app flat version specifiers, u) ∧
      Session.Sound s u ∧ s.Kept u.client from h.imp fun _ h => ⟨h.1, h.2.2⟩
  refine Attempt.run_bind_of_known ?fill fun answers t₁ h₁ => ?_
  case fill =>
    obtain ⟨u, hfill, hsound, hkept⟩ := FlatAnswers.run_toAnswers hs flat
    exact ⟨u, hfill, hsound, hk.trans hkept⟩
  refine Attempt.run_bind_of_known ?fetch fun current t₂ h₂ => ?_
  case fetch =>
    have hfetch : (Client.byId .templateVersion app.templateVersionId).run t₁ = _ :=
      Session.run_byId (h₁.2.unscripted _ hu app.templateVersionId)
    have hkept := Store.kept_countFetch .templateVersion app.templateVersionId t₁.client
    rw [h₁.2.stored_eq] at hfetch
    exact ⟨_, hfetch, h₁.1.kept hkept, h₁.2.trans hkept⟩
  refine Attempt.run_bind_of_known ?check fun _ t₃ h₃ => ?_
  case check =>
    have hcheck := run_checkVersion current version t₂
    rw [Store.checked_congr h₂.2.links] at hcheck
    exact ⟨_, hcheck, h₂⟩
  refine Attempt.run_bind_of_known ?targets fun projectIds t₄ h₄ => ⟨t₄, rfl, h₄⟩
  case targets =>
    obtain ⟨u, hresolve, hsound, hkept⟩ := Session.run_resolveTargets h₃.1 specifiers
    exact ⟨u, hresolve, hsound, h₃.2.trans hkept⟩

variable {app a : App} {flat : FlatAnswers} {version : String} {specifiers : List String}

/-- The app that is proposed is stored where there is one with its ID. -/
theorem run_upgrade_of_proposed (h : s.proposed app flat version specifiers = .ok a)
    (hold : ∃ old, s.get? .app a.id = some old) :
    ∃ t', (app.upgrade flat version specifiers).run t = (.ok a, t') ∧
    (s.replayed (.updated .app a)).Kept t'.client := by
  obtain ⟨u, hproposal, hkept⟩ := run_proposal hs hk hu app flat version specifiers
  rw [h] at hproposal
  have hstored : ∃ old, u.client.get? .app a.id = some old := by
    rwa [hkept.get?_eq]
  rw [upgrade_eq_proposal, Attempt.run_bind_ok hproposal, Session.run_update_of_stored hstored]
  exact ⟨_, rfl, hkept.replayed (.updated .app a)⟩

/-- An upgrade that succeeds has stored the app that is proposed. -/
theorem proposed_of_run_upgrade (h : (app.upgrade flat version specifiers).run t = (.ok a, t')) :
    s.proposed app flat version specifiers = .ok a ∧ (s.replayed (.updated .app a)).Kept t'.client := by
  rw [upgrade_eq_proposal] at h
  obtain ⟨b, u, hproposal, hupdate⟩ := Attempt.run_bind_eq_ok_iff.1 h
  obtain ⟨rfl, -, rfl⟩ := Session.run_update_eq_ok hupdate
  obtain ⟨u', hproposed, hkept⟩ := run_proposal hs hk hu app flat version specifiers
  obtain ⟨hvalue, rfl⟩ := Prod.mk.inj (hproposed.symm.trans hproposal)
  exact ⟨hvalue, hkept.replayed (.updated .app a)⟩

end Runs

end App

end MultiCluster
