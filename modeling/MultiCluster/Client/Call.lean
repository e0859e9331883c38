/-
Calls of the management API. Whoever answers them is a client: its state is whatever it needs to
remember, and the further pages it can hand out are bounded by a supply that each of them lessens, so
that following pages comes to an end.
-/
import MultiCluster.Attempt
import MultiCluster.Client.Fault
import MultiCluster.Json.Tree
namespace MultiCluster

/-- A span of time. -/
structure Duration where
  seconds : Nat
  nanos : Nat := 0
  deriving DecidableEq, Repr

/-- The span in nanoseconds. -/
def Duration.total (d : Duration) : Nat := d.seconds * 1000000000 + d.nanos

/-- One request to the server, or a wait before the next one. -/
inductive Call where
  | list (kind : Kind) (filters : Dict String)
  | next (kind : Kind) (page : Page kind.Record)
  | byId (kind : Kind) (id : String)
  | create (kind : Kind) (record : kind.Record)
  | update (kind : Kind) (record : kind.Record)
  | delete (kind : Kind) (record : kind.Record)
  | action (kind : Kind) (record : kind.Record) (name : String) (input : Json)
  | link (url : String)
  | sleep (time : Duration)

/-- What answers a call. -/
abbrev Call.Reply : Call → Type
  | .list kind _ => Page kind.Record
  | .next kind _ => Option (Page kind.Record)
  | .byId kind _ => kind.Record
  | .create kind _ => kind.Record
  | .update kind _ => kind.Record
  | .delete .. => Unit
  | .action .. => Unit
  | .link _ => Json.Tree
  | .sleep _ => Unit

/-- A client answers calls. -/
class Client (σ : Type) where
  answer : (c : Call) → Attempt Fault σ c.Reply
  /-- A bound on the further pages the client can hand out. -/
  supply : σ → Nat
  supply_next : ∀ (kind : Kind) (page p : Page kind.Record) (s s' : σ),
    answer (.next kind page) s = (.ok (some p), s') → supply s' < supply s

namespace Client

variable {σ : Type} [Client σ]

def list (kind : Kind) (filters : Dict String) : Attempt Fault σ (Page kind.Record) := answer (.list kind filters)

def next (kind : Kind) (page : Page kind.Record) : Attempt Fault σ (Option (Page kind.Record)) :=
  answer (.next kind page)

def byId (kind : Kind) (id : String) : Attempt Fault σ kind.Record := answer (.byId kind id)

def create (kind : Kind) (record : kind.Record) : Attempt Fault σ kind.Record := answer (.create kind record)

def update (kind : Kind) (record : kind.Record) : Attempt Fault σ kind.Record := answer (.update kind record)

def delete (kind : Kind) (record : kind.Record) : Attempt Fault σ Unit := answer (.delete kind record)

def action (kind : Kind) (record : kind.Record) (name : String) (input : Json) : Attempt Fault σ Unit :=
  answer (.action kind record name input)

def sleep (time : Duration) : Attempt Fault σ Unit := answer (.sleep time)

/-- What a link leads to, read in the form that is expected there. -/
def follow {α : Type} (read : Json.Tree → Option α) (url : String) : Attempt Fault σ α := do
  match read (← answer (.link url)) with
  | some a => return a
  | none => Attempt.fail .decode

end Client

/-! ## Recording the calls -/

/-- A client with the calls it was asked, the last one first. -/
structure Traced (σ : Type) where
  client : σ
  calls : List Call := []

instance {σ : Type} [Client σ] : Client (Traced σ) where
  answer c := fun t =>
    match Client.answer c t.client with
    | (r, s) => (r, ⟨s, c :: t.calls⟩)
  supply t := Client.supply t.client
  supply_next kind page p t t' h := by
    have : (Client.answer (.next kind page) t.client).1 = .ok (some p) ∧
        t'.client = (Client.answer (.next kind page) t.client).2 := by
      simp only [Prod.mk.injEq] at h
      exact ⟨h.1, by rw [← h.2]⟩
    rw [this.2]
    exact Client.supply_next kind page p t.client _ (Prod.ext this.1 rfl)

end MultiCluster
