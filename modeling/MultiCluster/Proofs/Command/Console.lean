/-
What the steps of a command do at its console: work with the server is work on the session alone
(`run_remote_eq_ok`), and an interview is one at the terminal (`run_interview`). An upgrade is a lookup of
its app, a reading of its answers, and the upgrade of the app (`run_upgrade_steps`); a rollback is a lookup of
its app, one of the revision, and the action (`run_rollback_steps`).
-/
import MultiCluster.Command.Change
import MultiCluster.Proofs.Session.Reading
namespace MultiCluster

/-- A file system in which nothing is found. -/
def noFiles : Files := ⟨fun _ => .error .missing⟩

namespace Console

variable {σ α : Type}

theorem run_remote (x : Attempt Fault (Session σ) α) (c : Console σ) :
    (remote x).run c = ((x.run c.session).1.mapError .api, { c with session := (x.run c.session).2 }) := by
  unfold remote
  rw [Attempt.run_mapError, Attempt.run_within]

section Remote

variable {x : Attempt Fault (Session σ) α} {c c' : Console σ} {t : Session σ} {a : α}

theorem run_remote_of_ok (h : x.run c.session = (.ok a, t)) : (remote x).run c = (.ok a, { c with session := t }) := by
  rw [run_remote, h]
  rfl

theorem run_remote_of_error {e : Fault} (h : x.run c.session = (.error e, t)) :
    (remote x).run c = (.error (.api e), { c with session := t }) := by
  rw [run_remote, h]
  rfl

theorem run_remote_eq_ok (h : (remote x).run c = (.ok a, c')) :
    ∃ t, x.run c.session = (.ok a, t) ∧ c' = { c with session := t } := by
  rw [run_remote] at h
  rcases hx : x.run c.session with ⟨e | a', t⟩ <;> rw [hx] at h <;> cases h
  exact ⟨t, rfl, rfl⟩

end Remote

theorem run_interview (prompting : Bool) (questions : List Question) (answers : FlatAnswers) (c : Console σ) :
    (interview prompting questions answers).run c =
      (((Interview.answerAll prompting questions).run ⟨c.terminal, answers⟩).1.map fun _ =>
          ((Interview.answerAll prompting questions).run ⟨c.terminal, answers⟩).2.answers,
        { c with terminal := ((Interview.answerAll prompting questions).run ⟨c.terminal, answers⟩).2.terminal }) := by
  show interview prompting questions answers c = _
  unfold interview
  rcases (Interview.answerAll prompting questions).run ⟨c.terminal, answers⟩ with ⟨_ | _, i⟩ <;> rfl

/-- An app that was found is what a lookup through the session gave. -/
theorem run_findApp_eq_ok [Client σ] {reference : String} {a : App} {c c' : Console σ}
    (h : (findApp reference).run c = (.ok a, c')) :
    (Client.lookup .app reference ∅).run c.session.client = (.ok a, c'.session.client) ∧
      c' = { c with session := { c.session with client := c'.session.client } } := by
  obtain ⟨t, ht, rfl⟩ := run_remote_eq_ok h
  rw [Session.lookup_eq_onClient] at ht
  obtain ⟨hlookup, hsession⟩ := Session.run_onClient_eq_ok ht
  exact ⟨hlookup, congrArg (fun t => { c with session := t }) hsession⟩

/-- The steps of an upgrade that succeeds: the app is found, its answers are joined by those that were given,
and it is moved to the version. -/
theorem run_upgrade_steps [Client σ] {files : Files} {format : Format} {r : UpgradeRequest} {c c' : Console σ}
    (hv : r.showVersions = false) (h : (upgrade files format r).run c = (.ok (), c')) :
    ∃ a s flat version b, (Client.lookup .app r.app ∅).run c.session.client = (.ok a, s) ∧
      AnswerSources.collect files (FlatAnswers.ofAnswers (App.answers a)) r.sources = .ok flat ∧
      (App.upgrade a flat version r.targets).run { c.session with client := s } = (.ok b, c'.session) := by
  unfold upgrade at h
  obtain ⟨a, c₁, h₁, h⟩ := Attempt.run_bind_eq_ok_iff.1 h
  obtain ⟨hlookup, hc₁⟩ := run_findApp_eq_ok h₁
  rw [hv] at h
  simp only [Bool.false_eq_true, if_false] at h
  split at h
  · cases h
  rename_i version _
  obtain ⟨flat, c₂, h₂, h⟩ := Attempt.run_bind_eq_ok_iff.1 h
  obtain ⟨hcollect, rfl⟩ := Prod.mk.inj h₂
  obtain ⟨b, c₃, h₃, h⟩ := Attempt.run_bind_eq_ok_iff.1 h
  cases h
  obtain ⟨t, ht, rfl⟩ := run_remote_eq_ok h₃
  refine ⟨a, c₁.session.client, flat, version, b, hlookup, hcollect, ?_⟩
  rw [hc₁] at ht
  exact ht

/-- The steps of a rollback that succeeds: the app and the revision are found, and the action is sent. -/
theorem run_rollback_steps [Client σ] {format : Format} {r : RollbackRequest} {c c' : Console σ}
    (hr : r.showRevisions = false) (h : (rollback format r).run c = (.ok (), c')) :
    ∃ a : App, ∃ reference, ∃ revision : Revision, ∃ s s', r.revision = some reference ∧
      (Client.lookup .app r.app ∅).run c.session.client = (.ok a, s) ∧
      (Client.lookup .revision reference ∅).run s = (.ok revision, s') ∧
      (App.rollback a revision.id).run s' = (.ok (), c'.session.client) := by
  unfold rollback at h
  obtain ⟨a, c₁, h₁, h⟩ := Attempt.run_bind_eq_ok_iff.1 h
  obtain ⟨happ, -⟩ := run_findApp_eq_ok h₁
  rw [hr] at h
  simp only [Bool.false_eq_true, if_false] at h
  split at h
  · cases h
  rename_i reference hreference
  obtain ⟨revision, c₂, h₂, h⟩ := Attempt.run_bind_eq_ok_iff.1 h
  obtain ⟨t, hlookup, rfl⟩ := run_remote_eq_ok h₂
  rw [Session.lookup_eq_onClient] at hlookup
  obtain ⟨hrevision, -⟩ := Session.run_onClient_eq_ok hlookup
  obtain ⟨_, c₃, h₃, h⟩ := Attempt.run_bind_eq_ok_iff.1 h
  obtain ⟨u, hact, rfl⟩ := run_remote_eq_ok h₃
  cases h
  exact ⟨a, reference, revision, _, _, hreference, happ, hrevision, (Session.run_onClient_eq_ok hact).1⟩

end Console

end MultiCluster
