/-
Waiting for an app to be installed: the app is fetched again and again, with a pause before each
fetch, until it is installed or has failed or the polls are used up.
-/
import MultiCluster.Client.Call
namespace MultiCluster

/-- A pause before each poll and a limit for all. -/
structure PollPolicy where
  interval : Duration := ⟨2, 0⟩
  timeout : Duration := ⟨60, 0⟩
  deriving DecidableEq

namespace PollPolicy

/-- No more polls than 32 bits count. -/
def maxCount : Nat := Nat.pow 2 32 - 1

/-- The number of polls: those that start before the limit. Without a pause there is one. -/
def maxPolls (p : PollPolicy) : Nat :=
  if p.timeout.total = 0 then 0
  else if p.interval.total = 0 then 1
  else min ((p.timeout.total + p.interval.total - 1) / p.interval.total) maxCount

end PollPolicy

/-- Where an install stands. -/
inductive InstallState where
  | waiting
  | installed
  | failed (message : String)
  | timedOut
  deriving DecidableEq

namespace InstallState

/-- The two texts are equal but for the case of the letters A to Z. -/
def sameLetters (a b : String) : Bool := Text.asciiLower a == Text.asciiLower b

def isInstalled (a : App) : Bool :=
  a.status.conditions.any fun c => sameLetters c.type "installed" && sameLetters c.status "true"

/-- What a fetched app says. One that is installed counts as such even if it also reports an error. -/
def observe (a : App) : InstallState :=
  if isInstalled a then installed
  else if a.transitioning = "error" then failed a.transitioningMessage
  else waiting

def isTerminal : InstallState → Bool
  | waiting => false
  | _ => true

end InstallState

namespace App

variable {σ : Type} [Client σ]

/-- Polls the app at most `polls` times. -/
def waitAtMost (id : String) (interval : Duration) : (polls : Nat) → Attempt Fault σ App
  | 0 => Attempt.fail .timeout
  | polls + 1 => do
    Client.sleep interval
    let a : App ← Client.byId .app id
    match InstallState.observe a with
    | .installed => return a
    | .failed message => Attempt.fail (.remoteFailure message)
    | .timedOut => Attempt.fail .timeout
    | .waiting => waitAtMost id interval polls

def waitForInstall (id : String) (policy : PollPolicy) : Attempt Fault σ App :=
  waitAtMost id policy.interval policy.maxPolls

end App

end MultiCluster
