/-
How many polls a policy allows, and how long a wait takes. The polls that start before the limit are
those whose pauses before them take less than it (`le_maxPolls_iff`), so there are as many as the limit
divided by the pause, rounded up; 128 bits hold all that is counted on the way (`maxPolls?_eq`). A wait
that runs into its limit has paused at least that long, and no wait pauses a whole interval longer
(`poll_budget`).
-/
import MultiCluster.Proofs.Lifecycle.Polling
import MultiCluster.Proofs.Rest.Verdict
import Mathlib
namespace MultiCluster

/-! ## Arithmetic of 128 bits -/

/-- The number where it fits into 128 bits. -/
def fit? (n : Nat) : Option Nat := if n < 2 ^ 128 then some n else none

/-- The quotient rounded up: one more than the whole part where something is left over. There is none
for the divisor zero. -/
def divideUp? (a b : Nat) : Option Nat :=
  if b = 0 then none else if 0 < a % b then fit? (a / b + 1) else fit? (a / b)

theorem fit?_eq {n : Nat} (h : n < 2 ^ 128) : fit? n = some n := if_pos h

/-- A sum that fits is made of parts that do. -/
theorem fit?_sum {a b : Nat} (h : a + b < 2 ^ 128) : ((fit? a).bind fun whole => fit? (whole + b)) = some (a + b) := by
  have ha : a < 2 ^ 128 := by omega
  rw [fit?_eq ha, Option.bind_some, fit?_eq h]

theorem divideUp?_eq {a b : Nat} (hb : 0 < b) (ha : a < 2 ^ 127) : divideUp? a b = some ((a + b - 1) / b) := by
  have hle : a / b ≤ a := Nat.div_le_self a b
  have hsplit : b * (a / b) + a % b = a := Nat.div_add_mod a b
  have hlt : a % b < b := Nat.mod_lt a hb
  unfold divideUp?
  rw [if_neg (by omega)]
  by_cases hr : 0 < a % b
  · rw [if_pos hr, fit?_eq (by omega)]
    congr 1
    symm
    rw [Nat.div_eq_iff hb, Nat.add_mul, Nat.mul_comm]
    omega
  · rw [if_neg hr, fit?_eq (by omega)]
    congr 1
    symm
    rw [Nat.div_eq_iff hb, Nat.mul_comm]
    omega

namespace Duration

/-- A span of whole seconds that 64 bits hold, and less than one second of nanoseconds. -/
structure Proper (d : Duration) : Prop where
  seconds_lt : d.seconds < 2 ^ 64
  nanos_lt : d.nanos < 10 ^ 9

/-- The span in nanoseconds, none where a step does not fit. -/
def total? (d : Duration) : Option Nat := do
  let whole ← fit? (d.seconds * 1000000000)
  fit? (whole + d.nanos)

theorem total_eq_zero_iff {d : Duration} : d.total = 0 ↔ d = ⟨0, 0⟩ := by
  obtain ⟨seconds, nanos⟩ := d
  unfold total
  simp only [Duration.mk.injEq]
  omega

theorem Proper.total_lt {d : Duration} (h : d.Proper) : d.total < 2 ^ 94 := by
  have hs := h.seconds_lt
  have hn := h.nanos_lt
  unfold total
  omega

theorem Proper.total?_eq {d : Duration} (h : d.Proper) : d.total? = some d.total := by
  have hsum := h.total_lt
  unfold total at hsum
  exact fit?_sum (by omega)

end Duration

namespace PollPolicy

variable {p q : PollPolicy}

theorem maxCount_eq : maxCount = 2 ^ 32 - 1 := rfl

/-- The number of polls, none where a step does not fit. What 32 bits do not hold is cut down to the
most that they do. -/
def maxPolls? (p : PollPolicy) : Option Nat :=
  if p.timeout = ⟨0, 0⟩ then some 0
  else if p.interval = ⟨0, 0⟩ then some 1
  else do
    let polls ← divideUp? (← p.timeout.total?) (← p.interval.total?)
    return if polls < 2 ^ 32 then polls else 2 ^ 32 - 1

theorem cut_eq_min (n : Nat) : (if n < 2 ^ 32 then n else 2 ^ 32 - 1) = min n maxCount := by
  rw [maxCount_eq]
  split <;> omega

/-- Every step fits, and nothing is divided by zero. -/
theorem maxPolls?_eq (hi : p.interval.Proper) (ht : p.timeout.Proper) : p.maxPolls? = some p.maxPolls := by
  unfold maxPolls? maxPolls
  by_cases hzero : p.timeout.total = 0
  · rw [if_pos hzero, if_pos (Duration.total_eq_zero_iff.1 hzero)]
  rw [if_neg hzero, if_neg fun h => hzero (Duration.total_eq_zero_iff.2 h)]
  by_cases hpause : p.interval.total = 0
  · rw [if_pos hpause, if_pos (Duration.total_eq_zero_iff.1 hpause)]
  rw [if_neg hpause, if_neg fun h => hpause (Duration.total_eq_zero_iff.2 h), ht.total?_eq, hi.total?_eq]
  have hlt : p.timeout.total < 2 ^ 127 := ht.total_lt.trans (by norm_num)
  rw [Option.bind_eq_bind, Option.bind_some, Option.bind_some, divideUp?_eq (Nat.pos_of_ne_zero hpause) hlt]
  exact congrArg some (cut_eq_min _)

/-! ## Polls that start before the limit -/

theorem maxPolls_of_timeout_zero (h : p.timeout.total = 0) : p.maxPolls = 0 := if_pos h

theorem maxPolls_of_interval_zero (ht : p.timeout.total ≠ 0) (hi : p.interval.total = 0) : p.maxPolls = 1 := by
  unfold maxPolls
  rw [if_neg ht, if_pos hi]

/-- A poll is made where the pauses before the one that leads to it take less than the limit. -/
theorem le_maxPolls_iff {k : Nat} (hi : 0 < p.interval.total) (hk : 1 ≤ k) (hcap : k ≤ 2 ^ 32 - 1) :
    k ≤ p.maxPolls ↔ (k - 1) * p.interval.total < p.timeout.total := by
  obtain ⟨k, rfl⟩ : ∃ j, k = j + 1 := ⟨k - 1, by omega⟩
  rw [Nat.add_sub_cancel]
  unfold maxPolls
  by_cases ht : p.timeout.total = 0
  · rw [if_pos ht, ht]
    omega
  rw [if_neg ht, if_neg (by omega), maxCount_eq, Nat.le_min, and_iff_left hcap, Nat.le_div_iff_mul_le hi, Nat.add_mul]
  omega

theorem maxPolls_eq_ceil (ht : p.timeout.total ≠ 0) (hi : p.interval.total ≠ 0) :
    p.maxPolls = min ⌈(p.timeout.total : ℚ) / p.interval.total⌉₊ (2 ^ 32 - 1) := by
  have hpos : 0 < p.interval.total := Nat.pos_of_ne_zero hi
  have hpos' : (0 : ℚ) < p.interval.total := Nat.cast_pos.2 hpos
  have hceil : (p.timeout.total + p.interval.total - 1) / p.interval.total =
      ⌈(p.timeout.total : ℚ) / p.interval.total⌉₊ := by
    refine eq_of_forall_ge_iff fun n => ?_
    rw [Nat.ceil_le, div_le_iff₀ hpos', ← Nat.cast_mul, Nat.cast_le, ← Nat.lt_succ_iff, Nat.div_lt_iff_lt_mul hpos,
      Nat.succ_mul]
    omega
  unfold maxPolls
  rw [if_neg ht, if_neg hi, hceil, maxCount_eq]

/-- A longer limit allows no fewer polls, a longer pause no more. -/
theorem maxPolls_mono (hi : 0 < p.interval.total) (hle : q.interval.total ≤ p.interval.total)
    (hq : 0 < q.interval.total) (ht : p.timeout.total ≤ q.timeout.total) : p.maxPolls ≤ q.maxPolls := by
  by_cases hzero : p.maxPolls = 0
  · omega
  have hcap : p.maxPolls ≤ 2 ^ 32 - 1 := by
    unfold maxPolls
    rw [maxCount_eq]
    split
    · omega
    · split <;> omega
  have hlast := (le_maxPolls_iff hi (by omega) hcap).1 (le_refl _)
  rw [le_maxPolls_iff hq (by omega) hcap]
  have hpauses : (p.maxPolls - 1) * q.interval.total ≤ (p.maxPolls - 1) * p.interval.total := Nat.mul_le_mul_left _ hle
  omega

/-- Below the cap the pauses reach the limit, and all but the last do not. -/
theorem pauses_of_uncapped (hi : 0 < p.interval.total) (hcap : p.maxPolls < 2 ^ 32 - 1) :
    p.timeout.total ≤ p.maxPolls * p.interval.total ∧
      p.maxPolls * p.interval.total < p.timeout.total + p.interval.total := by
  have hnext := le_maxPolls_iff (k := p.maxPolls + 1) hi (by omega) (by omega)
  rw [Nat.add_sub_cancel] at hnext
  refine ⟨by omega, ?_⟩
  by_cases hzero : p.maxPolls = 0
  · rw [hzero]
    omega
  obtain ⟨n, hn⟩ : ∃ n, p.maxPolls = n + 1 := ⟨p.maxPolls - 1, by omega⟩
  have hlast := (le_maxPolls_iff (k := p.maxPolls) hi (by omega) (by omega)).1 (le_refl _)
  rw [hn, Nat.add_sub_cancel] at hlast
  rw [hn, Nat.add_mul]
  omega

end PollPolicy

/-! ## The time a wait takes -/

/-- How long a call pauses, in nanoseconds. -/
def Call.slept : Call → Nat
  | .sleep time => time.total
  | _ => 0

/-- How long calls pause in all. -/
def slept (calls : List Call) : Nat := (calls.map Call.slept).sum

namespace App

theorem slept_pollCalls (id : String) (interval : Duration) (n : Nat) :
    slept (pollCalls id interval n).reverse = n * interval.total := by
  unfold slept
  rw [List.map_reverse, List.sum_reverse]
  induction n with
  | zero => simp [pollCalls]
  | succ n ih =>
    rw [pollCalls_succ, List.map_cons, List.map_cons, List.sum_cons, List.sum_cons, ih, Nat.add_mul]
    simp only [Call.slept]
    omega

variable {σ : Type} [Client σ] (s : σ) (id : String) {policy : PollPolicy}

/-- A wait makes some of the polls that it may. It makes them all where it comes to its own limit: no
fetch having said that there was one. -/
theorem exists_waitsFor (hpause : ∀ u : σ, ((Client.sleep policy.interval).run u).1 = .ok ()) :
    ∃ n o, n ≤ policy.maxPolls ∧ WaitsFor s id policy n o ∧
      (o = .error .timeout → (∀ i < policy.maxPolls, fetched id policy.interval s i ≠ .error .timeout) →
        n = policy.maxPolls) := by
  classical
  have hpauses : ∀ u : Traced σ, ((Client.sleep policy.interval).run u).1 = .ok () := fun u => hpause u.client
  by_cases hends : ∃ j, j < policy.maxPolls ∧ ¬ Ongoing (fetched id policy.interval s j)
  · -- the first fetch that ends the wait
    obtain ⟨hj, hnot⟩ := Nat.find_spec hends
    have hbefore : ∀ i < Nat.find hends, Ongoing (fetched id policy.interval s i) := by
      intro i hi
      by_contra hn
      exact Nat.find_min hends hi ⟨by omega, hn⟩
    generalize Nat.find hends = j at hj hnot hbefore
    unfold Ongoing at hnot
    push Not at hnot
    obtain ⟨o, ho⟩ := hnot
    refine ⟨j + 1, o, hj, ?_, ?_⟩
    · rw [← fetched_traced] at ho hbefore
      exact waitsFor_of_run (run_wait_of_ends hpauses hj ho hbefore)
    · rintro rfl hfetches
      generalize hr : fetched id policy.interval s j = r at ho
      cases ho
      exact absurd hr (hfetches j hj)
  · push Not at hends
    refine ⟨policy.maxPolls, .error .timeout, le_refl _, ?_, fun _ _ => rfl⟩
    rw [← fetched_traced] at hends
    exact waitsFor_of_run (run_wait_timeout hpauses hends)

end App

/-! ## Clients that leave the limit to the wait -/

/-- A store answers no fetch with a time limit. -/
theorem Store.byId_fails (kind : Kind) (id : String) :
    (Client.byId kind id : Attempt Fault Store kind.Record).FailsOnly (· ≠ .timeout) := by
  intro s
  show FailsOnly (· ≠ .timeout) (s.byId kind id).1
  unfold Store.byId
  dsimp only
  split
  · exact .ok _
  · exact .ok _
  · split
    · exact .ok _
    · exact .error nofun

namespace RestClient

theorem judge_fails (missing : Option Fault) (h : missing ≠ some .timeout) (url : Url) (reply : Rest.Reply) :
    FailsOnly (· ≠ Fault.timeout) (judge url missing reply) := by
  cases reply with
  | unreached => exact .error nofun
  | closed => exact .error nofun
  | response status bytes complete =>
    by_cases hs : Rest.isSuccess status = true
    · rw [judge_of_success hs]
      exact .ok _
    · rw [judge_of_failure (Bool.not_eq_true _ ▸ hs)]
      refine .error ?_
      unfold failure
      split
      · cases missing with
        | none => exact nofun
        | some fault => exact fun he => h (congrArg some he)
      · exact nofun

/-- Neither does a server. -/
theorem byId_fails (kind : Kind) (id : String) :
    (Client.byId kind id : Attempt Fault RestClient kind.Record).FailsOnly (· ≠ .timeout) := by
  refine .bind (.bind (.of_ok fun c => ⟨c, rfl⟩) fun c => .bind (.ofExcept ?_) fun r => ?_) fun b => .ofExcept ?_
  · exact (prepare_transport c _ _ _ _).mono fun e ⟨m, he⟩ => he ▸ nofun
  · intro c'
    exact judge_fails (some (.notFound kind id)) nofun r.url c'.server.reply.1
  · unfold Body.read
    split
    · split
      · exact .ok _
      · exact .error nofun
    · exact .error nofun

end RestClient

/-! ## The budget -/

namespace PollPolicy

/-- What a policy allows. There is no poll without a limit and one without a pause; else there are as
many as the limit divided by the pause, rounded up, and no more than 32 bits hold, and 128 bits are
enough to find out. With a pause, a poll is made exactly where the pauses before the one that leads to
it take less than the limit. A wait whose polls are not cut down so pauses for less than the limit and
one more pause, and for no less than the limit where it is the wait that reports it: the fetches of a
store and those over HTTP do not. A longer limit allows no fewer polls, a longer pause no more. -/
theorem poll_budget {p : PollPolicy} (hi : p.interval.Proper) (ht : p.timeout.Proper) :
    p.maxPolls? = some p.maxPolls ∧
    (p.timeout.total = 0 → p.maxPolls = 0) ∧
    (p.timeout.total ≠ 0 → p.interval.total = 0 → p.maxPolls = 1) ∧
    (p.timeout.total ≠ 0 → p.interval.total ≠ 0 →
      p.maxPolls = min ⌈(p.timeout.total : ℚ) / p.interval.total⌉₊ (2 ^ 32 - 1)) ∧
    (0 < p.interval.total →
      (∀ k, 1 ≤ k → k ≤ 2 ^ 32 - 1 → (k ≤ p.maxPolls ↔ (k - 1) * p.interval.total < p.timeout.total)) ∧
      (∀ {σ : Type} [Client σ] (s : σ) (t : Traced σ) (id : String) (o : Except Fault App),
        (∀ u : σ, ((Client.sleep p.interval).run u).1 = .ok ()) → p.maxPolls < 2 ^ 32 - 1 →
        (App.waitForInstall id p).run ({ client := s } : Traced σ) = (o, t) →
          slept t.calls < p.timeout.total + p.interval.total ∧
          (o = .error .timeout → (∀ i < p.maxPolls, App.fetched id p.interval s i ≠ .error .timeout) →
            p.timeout.total ≤ slept t.calls)) ∧
      (∀ timeout, p.timeout.total ≤ timeout.total → p.maxPolls ≤ ({ p with timeout } : PollPolicy).maxPolls) ∧
      ∀ interval, p.interval.total ≤ interval.total → ({ p with interval } : PollPolicy).maxPolls ≤ p.maxPolls) ∧
    (∀ (s : Store) (id : String) (i : Nat), App.fetched id p.interval s i ≠ .error .timeout) ∧
    ∀ (c : RestClient) (id : String) (i : Nat), App.fetched id p.interval c i ≠ .error .timeout := by
  refine ⟨maxPolls?_eq hi ht, maxPolls_of_timeout_zero, maxPolls_of_interval_zero, maxPolls_eq_ceil, fun hpos => ?_,
    fun s id i h => Store.byId_fails .app id _ _ h rfl, fun c id i h => RestClient.byId_fails .app id _ _ h rfl⟩
  refine ⟨fun k => le_maxPolls_iff hpos, ?_, ?_, ?_⟩
  · intro σ _ s t id o hpause hcap hrun
    obtain ⟨n, o', hn, hwaits, hlimit⟩ := App.exists_waitsFor s id hpause
    obtain ⟨hreached, hexceeded⟩ := pauses_of_uncapped hpos hcap
    obtain ⟨rfl, rfl⟩ := Prod.mk.inj (hrun.symm.trans hwaits)
    refine ⟨?_, ?_⟩
    · rw [App.slept_pollCalls]
      exact lt_of_le_of_lt (Nat.mul_le_mul_right _ hn) hexceeded
    · intro ho hfetches
      rw [App.slept_pollCalls, hlimit ho hfetches]
      exact hreached
  · intro timeout hle
    exact maxPolls_mono hpos (le_refl _) hpos hle
  · intro interval hle
    exact maxPolls_mono (lt_of_lt_of_le hpos hle) hle hpos (le_refl _)

/-- A limit that is a nanosecond more than four pauses. -/
def justOver : PollPolicy := ⟨⟨2, 500000000⟩, ⟨10, 1⟩⟩

/-- The longest limit with the shortest pause. -/
def widest : PollPolicy := ⟨⟨0, 1⟩, ⟨2 ^ 64 - 1, 999999999⟩⟩

/-- There is a fifth poll, and an app that does not come up is waited for over its pause. The polls of
the longest limit are cut down. -/
theorem poll_budget_justOver :
    justOver.maxPolls? = some 5 ∧ widest.maxPolls? = some (2 ^ 32 - 1) ∧
      ∃ t, (App.waitForInstall "a-1" justOver).run
          ({ client := ({} : Store).script .app "a-1" [App.converging] } : Traced Store) = (.error .timeout, t) ∧
        justOver.timeout.total ≤ slept t.calls ∧ slept t.calls < justOver.timeout.total + justOver.interval.total := by
  obtain ⟨hpolls, -, -, -, hpaused, hfetched, -⟩ :=
    poll_budget (p := justOver) ⟨by decide, by decide⟩ ⟨by decide, by decide⟩
  obtain ⟨hwidest, -⟩ := poll_budget (p := widest) ⟨by decide, by decide⟩ ⟨by decide, by decide⟩
  obtain ⟨-, hslept, -⟩ := hpaused (by decide)
  have hrun : (App.waitForInstall "a-1" justOver).run
      ({ client := ({} : Store).script .app "a-1" [App.converging] } : Traced Store) = (.error .timeout, _) :=
    Prod.ext (by decide +kernel) rfl
  obtain ⟨hless, hmore⟩ := hslept _ _ "a-1" _ (fun _ => rfl) (by decide) hrun
  exact ⟨hpolls.trans (by decide), hwidest.trans (by decide), _, hrun, hmore rfl fun i _ => hfetched _ "a-1" i, hless⟩

end PollPolicy

end MultiCluster
