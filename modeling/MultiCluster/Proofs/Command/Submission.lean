/-
What install and upgrade submit. Up to the one call that creates or updates the app a command only
reads, so the records it makes of its answers are those that the clusters and projects of the store
decide; the answers are the collected ones, to which an install adds those of questions that are still
open (`within_answerAll`).
-/
import MultiCluster.Proofs.Answers.Filling
import MultiCluster.Proofs.Answers.Interview
import MultiCluster.Proofs.Command.Installation
namespace MultiCluster

/-! ## Commands -/

namespace Command

/-- The answers a command makes records of: those it collected and, for an install, those to questions
still open. -/
def Completes (collected flat : FlatAnswers) : Command → Prop
  | .install r => ∃ questions t t', (Interview.answerAll (!r.noPrompt) questions).run ⟨t, collected⟩ =
    (.ok (), ⟨t', flat⟩)
  | _ => flat = collected

theorem Completes.within {collected flat : FlatAnswers} {cmd : Command} (h : cmd.Completes collected flat) :
    collected.Within flat := by
  cases cmd with
  | install r =>
    obtain ⟨questions, t, t', hrun⟩ := h
    have := Interview.within_answerAll (!r.noPrompt) questions ⟨t, collected⟩
    rwa [hrun] at this
  | _ => obtain rfl : flat = collected := h; exact fun _ _ hk => hk

end Command

namespace Console

variable {s : Store} {files : Files} {c c' : Console Store}

/-- An upgrade submits the app as it was found, but for what was asked for, and stores it. -/
theorem run_upgrade_eq_ok {format : Format} {r : UpgradeRequest} (hs : Session.Sound s c.session)
    (hv : r.showVersions = false) (h : (upgrade files format r).run c = (.ok (), c')) :
    ∃ a b flat, ((Client.lookup .app r.app ∅).run c.session).1 = .ok b ∧ App.id b = a.id ∧
      AnswerSources.collect files (FlatAnswers.ofAnswers b.answers) r.sources = .ok flat ∧
      (FlatAnswers.fillWith s.scopeIdOf flat.toList ∅).map Buckets.toAnswers = .ok a.answers ∧
      c'.session.client.log = c.session.client.log ++ [.updated .app a] ∧
      c'.session.client.get? .app a.id = some a := by
  obtain ⟨b, client, flat, version, a, hlookup, hcollect, hupgrade⟩ := run_upgrade_steps hv h
  have hfound : (Client.lookup .app r.app ∅).run c.session = (.ok b, { c.session with client }) := by
    rw [Session.lookup_eq_onClient, Session.run_onClient, hlookup]
  obtain ⟨hs₁, hk₁⟩ : Session.Sound s { c.session with client } ∧ c.session.client.Kept client :=
    (Session.steady_lookup .app _ _).of_run hfound s hs
  obtain ⟨answers, t₂, current, t₃, projectIds, u, hto, -, -, -, hmade, hkept, -, hupdate⟩ :=
    App.run_upgrade_eq_ok hupgrade
  obtain ⟨t', hfill, -⟩ := FlatAnswers.run_toAnswers hs₁ flat
  have hanswers := (Prod.mk.inj (hfill.symm.trans hto)).1
  refine ⟨a, b, flat, by rw [hfound], by rw [hmade], hcollect, ?_, ?_, ?_⟩
  · rw [hmade]
    exact hanswers
  · calc c'.session.client.log
        = u.log ++ [.updated .app a] := by rw [hupdate]; rfl
      _ = c.session.client.log ++ [.updated .app a] := by rw [hkept.log, hk₁.log]
  · rw [hupdate]
    exact Store.get?_insert_self .app a u

end Console

end MultiCluster
