/-
Calls one after the other. Where a client is after some calls does not depend on what it replied, so
what a program did can be told by the calls it made. A client that records its calls is where the
client itself would be, with the calls written down (`after_traced`).
-/
import MultiCluster.Client.Call
namespace MultiCluster.Client

variable {σ : Type} [Client σ]

/-- The client after the calls, whatever was replied to them. -/
def after (s : σ) (calls : List Call) : σ := calls.foldl (fun s c => ((answer c).run s).2) s

@[simp] theorem after_nil (s : σ) : after s [] = s := rfl

@[simp] theorem after_cons (s : σ) (c : Call) (calls : List Call) :
    after s (c :: calls) = after ((answer c).run s).2 calls := rfl

/-- A call that is recorded is answered as without, and written down. -/
theorem answer_traced {c : Call} {s s' : σ} {r : Except Fault c.Reply} (h : answer c s = (r, s')) (before : List Call) :
    answer c (⟨s, before⟩ : Traced σ) = (r, ⟨s', c :: before⟩) := by
  have hanswer : answer c (⟨s, before⟩ : Traced σ) = ((answer c s).1, ⟨(answer c s).2, c :: before⟩) := rfl
  rw [hanswer, h]

/-- Recording does not get in the way of the calls, the last of which is written down first. -/
theorem after_traced (t : Traced σ) (calls : List Call) :
    after t calls = ⟨after t.client calls, calls.reverse ++ t.calls⟩ := by
  induction calls generalizing t with
  | nil => rfl
  | cons c calls ih =>
    have hstep : ((answer c).run t).2 = ⟨((answer c).run t.client).2, c :: t.calls⟩ := rfl
    rw [after_cons, hstep, ih]
    simp

/-- A recorded call is replied to as it would be without recording. -/
theorem reply_traced (t : Traced σ) (calls : List Call) (c : Call) :
    ((answer c).run (after t calls)).1 = ((answer c).run (after t.client calls)).1 := by
  rw [after_traced]
  rfl

end MultiCluster.Client
