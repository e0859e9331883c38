/-
Waiting for an install, told by what the fetches say. Each poll is a pause and a fetch, so a client is
after `n` polls where those `2 * n` calls lead it, whatever came of them (`pollCalls`), and what the
next fetch says is settled before the wait begins (`fetched`). A wait ends with the first fetch that
ends it (`Ends`), or with the time limit after as many polls as there may be (`wait_follows_fetches`).
-/
import MultiCluster.Lifecycle.Poll
import MultiCluster.Proofs.Client.Calls
import MultiCluster.Proofs.Client.Reading
import MultiCluster.Proofs.Store.Scripts
import Mathlib
namespace MultiCluster

/-! ## What a fetch says -/

theorem Text.asciiLower_eq_toLower (s : String) : asciiLower s = s.toLower := by
  have hchar : ∀ c : Char, (if 'A' ≤ c ∧ c ≤ 'Z' then Char.ofNat (c.toNat + 32) else c) = c.toLower := by
    intro c
    unfold Char.toLower
    by_cases h : 'A' ≤ c ∧ c ≤ 'Z'
    · have hval : c.val ≥ 'A'.val ∧ c.val ≤ 'Z'.val := h
      have hle : c.toNat ≤ 90 := UInt32.le_iff_toNat_le.1 hval.2
      have hvalid : (c.toNat + 32).isValidChar := .inl (by omega)
      rw [if_pos h, dif_pos hval, Char.ofNat, dif_pos hvalid]
      apply Char.ext
      apply UInt32.toNat_inj.1
      simp [Char.ofNatAux]
    · have hval : ¬ (c.val ≥ 'A'.val ∧ c.val ≤ 'Z'.val) := h
      rw [if_neg h, dif_neg hval]
  simp only [asciiLower, String.toLower, hchar]

namespace App

/-- A condition says that the app is installed, in letters of either case. -/
def Installed (a : App) : Prop := ∃ c ∈ a.status.conditions, c.type.toLower = "installed" ∧ c.status.toLower = "true"

theorem isInstalled_iff {a : App} : InstallState.isInstalled a = true ↔ a.Installed := by
  have htype : "installed".toLower = "installed" := by cbv
  have hstatus : "true".toLower = "true" := by cbv
  simp only [InstallState.isInstalled, InstallState.sameLetters, Text.asciiLower_eq_toLower, htype, hstatus,
    List.any_eq_true, Bool.and_eq_true, beq_iff_eq]
  rfl

/-- The fetches that end a wait, and how: a failed one, an installed app whatever else it reports, and an
app in the error state. -/
inductive Ends : Except Fault App → Except Fault App → Prop
  | fault (e : Fault) : Ends (.error e) (.error e)
  | installed {a : App} : a.Installed → Ends (.ok a) (.ok a)
  | failed {a : App} : ¬ a.Installed → a.transitioning = "error" →
      Ends (.ok a) (.error (.remoteFailure a.transitioningMessage))

/-- A fetch after which the wait goes on. -/
def Ongoing (r : Except Fault App) : Prop := ∀ o, ¬ Ends r o

section Observe

open InstallState (observe)

variable {a : App}

theorem observe_of_installed (h : a.Installed) : observe a = .installed := if_pos (isInstalled_iff.2 h)

theorem observe_of_failed (h : ¬ a.Installed) (he : a.transitioning = "error") :
    observe a = .failed a.transitioningMessage := by
  rw [observe, if_neg fun hi => h (isInstalled_iff.1 hi), if_pos he]

theorem observe_of_neither (h : ¬ a.Installed) (he : a.transitioning ≠ "error") : observe a = .waiting := by
  rw [observe, if_neg fun hi => h (isInstalled_iff.1 hi), if_neg he]

/-- The wait goes on where an app was fetched that is neither installed nor failed. -/
theorem ongoing_iff {r : Except Fault App} : Ongoing r ↔ ∃ a, r = .ok a ∧ observe a = .waiting := by
  constructor
  · intro h
    cases r with
    | error e => exact absurd (.fault e) (h _)
    | ok a =>
      have hi : ¬ a.Installed := fun hi => h _ (.installed hi)
      have he : a.transitioning ≠ "error" := fun he => h _ (.failed hi he)
      exact ⟨a, rfl, observe_of_neither hi he⟩
  · rintro ⟨a, rfl, hwaiting⟩ o hends
    cases hends with
    | installed hi =>
      rw [observe_of_installed hi] at hwaiting
      cases hwaiting
    | failed hi he =>
      rw [observe_of_failed hi he] at hwaiting
      cases hwaiting

end Observe

/-! ## One poll -/

/-- The calls of `n` polls. -/
def pollCalls (id : String) (interval : Duration) (n : Nat) : List Call :=
  (List.replicate n [Call.sleep interval, .byId .app id]).flatten

theorem pollCalls_succ (id : String) (interval : Duration) (n : Nat) :
    pollCalls id interval (n + 1) = .sleep interval :: .byId .app id :: pollCalls id interval n := by
  rw [pollCalls, List.replicate_succ, List.flatten_cons]
  rfl

variable {σ : Type} [Client σ]

/-- What the fetch behind `n` polls and a pause says. -/
def fetched (id : String) (interval : Duration) (s : σ) (n : Nat) : Except Fault App :=
  ((Client.byId .app id).run (Client.after s (pollCalls id interval n ++ [.sleep interval]))).1

section Polls

variable {s : σ} {id : String} {interval : Duration} {polls : Nat} {o : Except Fault App}
variable (hpause : ∀ u : σ, ((Client.sleep interval).run u).1 = .ok ())

theorem fetched_succ (id : String) (interval : Duration) (s : σ) (n : Nat) :
    fetched id interval s (n + 1) = fetched id interval (Client.after s (pollCalls id interval 1)) n := by
  rw [fetched, pollCalls_succ]
  rfl

theorem ongoing_after (h : ∀ i < polls + 1, Ongoing (fetched id interval s i)) :
    ∀ i < polls, Ongoing (fetched id interval (Client.after s (pollCalls id interval 1)) i) := by
  intro i hi
  rw [← fetched_succ]
  exact h (i + 1) (Nat.succ_lt_succ hi)

include hpause

/-- A poll pauses and fetches; the rest depends on what was fetched. -/
theorem run_poll : (waitAtMost id interval (polls + 1)).run s =
    (do
      let a : App ← Attempt.ofExcept (fetched id interval s 0)
      match InstallState.observe a with
      | .installed => return a
      | .failed message => Attempt.fail (.remoteFailure message)
      | .timedOut => Attempt.fail .timeout
      | .waiting => waitAtMost id interval polls : Attempt Fault σ App).run
        (Client.after s (pollCalls id interval 1)) := by
  have hsleep : (Client.sleep interval).run s = (.ok (), Client.after s [.sleep interval]) := Prod.ext (hpause s) rfl
  have hfetch : (Client.byId .app id).run (Client.after s [.sleep interval]) =
      (Attempt.ofExcept (fetched id interval s 0)).run (Client.after s (pollCalls id interval 1)) := rfl
  rw [waitAtMost, Attempt.run_bind_ok hsleep]
  exact Attempt.run_bind_congr hfetch _

/-- A fetch that ends the wait ends it there. -/
theorem run_poll_of_ends (h : Ends (fetched id interval s 0) o) :
    (waitAtMost id interval (polls + 1)).run s = (o, Client.after s (pollCalls id interval 1)) := by
  rw [run_poll hpause]
  generalize fetched id interval s 0 = r at h
  cases h with
  | fault e => rfl
  | installed hi =>
    rw [Attempt.run_bind_ok (Attempt.run_ofExcept _ _), observe_of_installed hi]
    rfl
  | failed hi he =>
    rw [Attempt.run_bind_ok (Attempt.run_ofExcept _ _), observe_of_failed hi he]
    rfl

/-- After any other fetch the wait goes on with one poll less. -/
theorem run_poll_of_ongoing (h : Ongoing (fetched id interval s 0)) :
    (waitAtMost id interval (polls + 1)).run s =
      (waitAtMost id interval polls).run (Client.after s (pollCalls id interval 1)) := by
  obtain ⟨a, ha, hobserve⟩ := ongoing_iff.1 h
  rw [run_poll hpause, ha, Attempt.run_bind_ok (Attempt.run_ofExcept _ _), hobserve]

/-! ## All polls -/

/-- A wait ends with the first fetch that ends it. -/
theorem run_wait_of_ends {j : Nat} (hj : j < polls) (h : Ends (fetched id interval s j) o)
    (hbefore : ∀ i < j, Ongoing (fetched id interval s i)) :
    (waitAtMost id interval polls).run s = (o, Client.after s (pollCalls id interval (j + 1))) := by
  induction j generalizing s polls with
  | zero =>
    obtain ⟨rest, rfl⟩ : ∃ rest, polls = rest + 1 := ⟨polls - 1, by omega⟩
    exact run_poll_of_ends hpause h
  | succ j ih =>
    obtain ⟨rest, rfl⟩ : ∃ rest, polls = rest + 1 := ⟨polls - 1, by omega⟩
    rw [fetched_succ] at h
    rw [run_poll_of_ongoing hpause (hbefore 0 (Nat.succ_pos j)),
      ih (Nat.lt_of_succ_lt_succ hj) h (ongoing_after hbefore), pollCalls_succ id interval (j + 1)]
    rfl

/-- A wait without such a fetch takes all polls. -/
theorem run_wait_timeout (h : ∀ i < polls, Ongoing (fetched id interval s i)) :
    (waitAtMost id interval polls).run s = (.error .timeout, Client.after s (pollCalls id interval polls)) := by
  induction polls generalizing s with
  | zero => rfl
  | succ polls ih =>
    rw [run_poll_of_ongoing hpause (h 0 (Nat.succ_pos polls)), ih (ongoing_after h), pollCalls_succ id interval polls]
    rfl

end Polls

/-- A wait only reads. -/
theorem keeps_waitAtMost {ρ : Type} {view : σ → ρ} {R : ρ → ρ → Prop} [IsPreorder ρ R] (h : Client.ReadsKeep view R)
    (id : String) (interval : Duration) (polls : Nat) :
    (waitAtMost id interval polls : Attempt Fault σ App).Keeps view R := by
  induction polls with
  | zero => exact .fail _
  | succ polls ih =>
    refine .bind (h (.sleep interval) trivial) fun _ => ?_
    refine .bind (h (.byId .app id) trivial) fun a => ?_
    split
    · exact .pure _
    · exact .fail _
    · exact .fail _
    · exact ih

theorem keeps_waitForInstall {ρ : Type} {view : σ → ρ} {R : ρ → ρ → Prop} [IsPreorder ρ R] (h : Client.ReadsKeep view R)
    (id : String) (policy : PollPolicy) : (waitForInstall id policy : Attempt Fault σ App).Keeps view R :=
  keeps_waitAtMost h id policy.interval policy.maxPolls

/-! ## The wait -/

/-- A wait that begins here makes the calls of `n` polls and no others, and comes to `o`. -/
def WaitsFor (s : σ) (id : String) (policy : PollPolicy) (n : Nat) (o : Except Fault App) : Prop :=
  (waitForInstall id policy).run ({ client := s } : Traced σ) =
    (o, ⟨Client.after s (pollCalls id policy.interval n), (pollCalls id policy.interval n).reverse⟩)

section Recorded

variable {s : σ} {id : String} {policy : PollPolicy} {n : Nat} {o : Except Fault App}

/-- Recording changes nothing of what is fetched. -/
theorem fetched_traced (id : String) (interval : Duration) (s : σ) :
    fetched id interval ({ client := s } : Traced σ) = fetched id interval s :=
  funext fun _ => Client.reply_traced _ _ (.byId .app id)

theorem waitsFor_of_run (h : (waitForInstall id policy).run ({ client := s } : Traced σ) =
    (o, Client.after ({ client := s } : Traced σ) (pollCalls id policy.interval n))) : WaitsFor s id policy n o := by
  rw [Client.after_traced, List.append_nil] at h
  exact h

end Recorded

/-- A wait whose pauses succeed comes to what the first fetch that ends it says, if that is one of the
polls the policy allows, and else to the time limit; it makes the polls up to there, a pause before each
fetch, and no other call. On a store a scripted ID is fetched as its responses say, one after the other
and then the last one again and again, whatever else is asked in between. -/
theorem wait_follows_fetches :
    (∀ {σ : Type} [Client σ] (s : σ) (id : String) (policy : PollPolicy),
      (∀ u : σ, ((Client.sleep policy.interval).run u).1 = .ok ()) →
        (∀ j o, j < policy.maxPolls → Ends (fetched id policy.interval s j) o →
          (∀ i < j, Ongoing (fetched id policy.interval s i)) → WaitsFor s id policy (j + 1) o) ∧
        ((∀ i < policy.maxPolls, Ongoing (fetched id policy.interval s i)) →
          WaitsFor s id policy policy.maxPolls (.error .timeout))) ∧
      ∀ (s : Store) (kind : Kind) (id : String), s.scriptOf kind id ≠ [] → ∀ calls : List Call,
        ∃ r, (s.scriptOf kind id)[min (calls.countP (Call.isFetch kind id)) ((s.scriptOf kind id).length - 1)]? =
          some r ∧
          ((Client.byId kind id).run (Client.after s calls)).1 = .ok r := by
  refine ⟨?_, fun s kind id h calls => Store.byId_scripted h calls⟩
  intro σ _ s id policy hpause
  have hpauses : ∀ u : Traced σ, ((Client.sleep policy.interval).run u).1 = .ok () := fun u => hpause u.client
  constructor
  · intro j o hj hends hbefore
    rw [← fetched_traced] at hends hbefore
    exact waitsFor_of_run (run_wait_of_ends hpauses hj hends hbefore)
  · intro h
    rw [← fetched_traced] at h
    exact waitsFor_of_run (run_wait_timeout hpauses h)

/-- An app that is being installed. -/
def converging : App := { id := "a-1", transitioning := "yes" }

/-- An app that is installed although it reports an error. -/
def settled : App :=
  { id := "a-1"
    status := { conditions := [{ type := "installed", status := "TRUE" }] }
    transitioning := "error"
    transitioningMessage := "quota" }

/-- A store that gives the one and from then on the other. -/
def convergingStore : Store := ({} : Store).script .app "a-1" [converging, settled]

/-- The second poll ends the wait; with a limit of one poll it is not made. -/
theorem wait_follows_fetches_converging :
    WaitsFor convergingStore "a-1" {} 2 (.ok settled) ∧
      WaitsFor convergingStore "a-1" { timeout := ⟨2, 0⟩ } 1 (.error .timeout) ∧
      ∀ calls : List Call, calls.countP (Call.isFetch .app "a-1") = 7 →
        ((Client.byId .app "a-1").run (Client.after convergingStore calls)).1 = .ok settled := by
  have hwaits := wait_follows_fetches.1 convergingStore "a-1"
  have hpause : ∀ (interval : Duration) (u : Store), ((Client.sleep interval).run u).1 = .ok () := fun _ _ => rfl
  have hfirst : Ongoing (fetched "a-1" ⟨2, 0⟩ convergingStore 0) :=
    ongoing_iff.2 ⟨converging, rfl, by cbv⟩
  have hbefore : ∀ i < 1, Ongoing (fetched "a-1" ⟨2, 0⟩ convergingStore i) := by
    intro i hi
    obtain rfl : i = 0 := by omega
    exact hfirst
  have hsecond : Ends (fetched "a-1" ⟨2, 0⟩ convergingStore 1) (.ok settled) :=
    .installed (isInstalled_iff.1 (by cbv))
  refine ⟨(hwaits {} (hpause _)).1 1 (.ok settled) (by decide) hsecond hbefore,
    (hwaits { timeout := ⟨2, 0⟩ } (hpause _)).2 hbefore, ?_⟩
  intro calls hcount
  obtain ⟨r, hr, hfetch⟩ := wait_follows_fetches.2 convergingStore .app "a-1" (by decide) calls
  rw [hcount] at hr
  cases hr
  exact hfetch

end App

end MultiCluster
