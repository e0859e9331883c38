/-
Where a command runs: a session with the server, a terminal to ask at, and the output.
-/
import MultiCluster.Answers.Question
import MultiCluster.Report.Listing
namespace MultiCluster

structure Console (σ : Type) where
  session : Session σ
  terminal : Terminal := {}
  output : String := ""

namespace Console

variable {σ α : Type}

/-- Work with the server; its faults are those of the command. -/
def remote (x : Attempt Fault (Session σ) α) : Attempt CommandFault (Console σ) α :=
  (x.within Console.session fun s c => { c with session := s }).mapError .api

/-- A reading of what the server sent. -/
def judged (x : Except Fault α) : Attempt CommandFault (Console σ) α := Attempt.ofExcept (x.mapError .api)

def print (format : Format) (r : Report) : Attempt CommandFault (Console σ) Unit :=
  Attempt.modify fun c => { c with output := c.output ++ r.render format }

/-- Fills in answers by asking at the terminal, or by the defaults. -/
def interview (prompting : Bool) (questions : List Question) (answers : FlatAnswers) :
    Attempt CommandFault (Console σ) FlatAnswers := fun c =>
  match (Interview.answerAll prompting questions).run ⟨c.terminal, answers⟩ with
  | (.ok (), i) => (.ok i.answers, { c with terminal := i.terminal })
  | (.error e, i) => (.error e, { c with terminal := i.terminal })

end Console

end MultiCluster
