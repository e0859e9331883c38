/-
Reading through a client. A listing that is drained, a lookup and a link that is followed are made of
calls that only ask; what each such call leaves as it was, they leave as it was (`ReadsKeep`), on any
client.
-/
import MultiCluster.Client.Lookup
import MultiCluster.Proofs.Keeps
namespace MultiCluster

/-- Calls that ask and change no record. -/
def Call.IsRead : Call → Prop
  | .list .. => True
  | .next .. => True
  | .byId .. => True
  | .link _ => True
  | .sleep _ => True
  | _ => False

/-- Calls that ask for a page of a listing. -/
def Call.IsPaging : Call → Prop
  | .list .. => True
  | .next .. => True
  | _ => False

namespace Client

variable {σ : Type} [Client σ]

/-! ## Draining, case by case -/

section Drain

variable {kind : Kind} {page : Page kind.Record} {s s' : σ}

theorem drain_last (h : page.isPartial = false) : drain kind page s = (.ok page.records, s) := by
  unfold drain
  simp [h]

theorem drain_next_error {e : Fault} (h : page.isPartial = true) (hn : answer (.next kind page) s = (.error e, s')) :
    drain kind page s = (.error e, s') := by
  unfold drain
  rw [if_pos h]
  split <;> simp_all

theorem drain_next_none (h : page.isPartial = true) (hn : answer (.next kind page) s = (.ok none, s')) :
    drain kind page s = (.ok page.records, s') := by
  unfold drain
  rw [if_pos h]
  split <;> simp_all

theorem drain_next_some {p : Page kind.Record} (h : page.isPartial = true)
    (hn : answer (.next kind page) s = (.ok (some p), s')) :
    drain kind page s = ((drain kind p s').1.map (page.records ++ ·), (drain kind p s').2) := by
  rw [drain, if_pos h]
  split
  · simp_all
  · simp_all
  · rename_i q t hq
    rw [hn] at hq
    cases hq
    rcases drain kind p s' with ⟨_ | _, _⟩ <;> rfl

/-- To know something of draining is to know it of the last page, and of one page more. -/
theorem drain_induction {motive : Page kind.Record → σ → Prop} (last : ∀ page s, page.isPartial = false → motive page s)
    (more : ∀ page s, page.isPartial = true →
      (∀ p s', answer (.next kind page) s = (.ok (some p), s') → motive p s') → motive page s) (page : Page kind.Record)
    (s : σ) : motive page s := by
  -- on the pages the client can still hand out
  induction hn : Client.supply s using Nat.strongRecOn generalizing page s with
  | _ n ih =>
    cases hp : page.isPartial with
    | false => exact last page s hp
    | true => exact more page s hp fun p s' h => ih _ (hn ▸ supply_next kind page p s s' h) p s' rfl

end Drain

/-! ## What reading keeps -/

variable {ρ α : Type} {view : σ → ρ} {R : ρ → ρ → Prop}

/-- Every call for a page leaves the view as it was, up to `R`. -/
def PagingKeeps (view : σ → ρ) (R : ρ → ρ → Prop) : Prop :=
  ∀ c : Call, c.IsPaging → (answer c : Attempt Fault σ c.Reply).Keeps view R

/-- Every call that only asks leaves the view as it was, up to `R`. -/
def ReadsKeep (view : σ → ρ) (R : ρ → ρ → Prop) : Prop :=
  ∀ c : Call, c.IsRead → (answer c : Attempt Fault σ c.Reply).Keeps view R

namespace PagingKeeps

variable (h : PagingKeeps view R) [IsPreorder ρ R]
include h

theorem drain (kind : Kind) (page : Page kind.Record) : Attempt.Keeps view R (Client.drain (σ := σ) kind page) := by
  intro s
  show R (view s) (view (Client.drain kind page s).2)
  refine drain_induction (motive := fun page s => R (view s) (view (Client.drain kind page s).2)) ?last ?more page s
  case last =>
    intro page s hp
    rw [drain_last hp]
    exact Std.Refl.refl _
  case more =>
    intro page s hp ih
    rcases hn : answer (.next kind page) s with ⟨e | p, s'⟩
    all_goals have hstep : R (view s) (view s') := (h (.next kind page) trivial).of_run hn
    · rw [drain_next_error hp hn]
      exact hstep
    · cases p with
      | none =>
        rw [drain_next_none hp hn]
        exact hstep
      | some p =>
        rw [drain_next_some hp hn]
        exact IsTrans.trans _ _ _ hstep (ih p s' hn)

theorem listAll (kind : Kind) (filters : Dict String) :
    (Client.listAll kind filters : Attempt Fault σ (List kind.Record)).Keeps view R :=
  .bind (h (.list kind filters) trivial) fun page => h.drain kind page

end PagingKeeps

theorem ReadsKeep.paging (h : ReadsKeep view R) : PagingKeeps view R := fun c hc =>
  h c (by cases c with
    | list | next => trivial
    | _ => exact hc.elim)

namespace ReadsKeep

variable (h : ReadsKeep view R) [IsPreorder ρ R]
include h

theorem drain (kind : Kind) (page : Page kind.Record) : Attempt.Keeps view R (Client.drain (σ := σ) kind page) :=
  h.paging.drain kind page

theorem listAll (kind : Kind) (filters : Dict String) :
    (Client.listAll kind filters : Attempt Fault σ (List kind.Record)).Keeps view R := h.paging.listAll kind filters

theorem lookup (kind : Kind) (reference : String) (filters : Dict String) :
    (Client.lookup kind reference filters : Attempt Fault σ kind.Record).Keeps view R := by
  unfold Client.lookup
  split
  · exact .fail _
  · refine (h.listAll kind _).bind fun rs => ?_
    match rs with
    | [] => exact (h (.byId kind reference) trivial).mapError _
    | [r] => exact .pure r
    | _ :: _ :: _ => exact .fail _

theorem follow (read : Json.Tree → Option α) (url : String) :
    (Client.follow read url : Attempt Fault σ α).Keeps view R := by
  refine .bind (h (.link url) trivial) fun body => ?_
  split
  · exact .pure _
  · exact .fail _

end ReadsKeep

end Client

end MultiCluster
