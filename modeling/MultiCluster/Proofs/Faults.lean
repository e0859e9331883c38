/-
What computations fail with. Of each part of a command but two it is known that it does not fail because a template
does not offer a version: reading and collecting answers and asking for them fail for reasons of their own, and the
calls of a store, lookups, the resolution of scopes and waiting for an app with other faults. Only the choice of a
version and its check are left (`Fault.Unversioned`).
-/
import MultiCluster.Command.Change
import MultiCluster.Proofs.Client.Reading
import MultiCluster.Proofs.Store.Writing
namespace MultiCluster

variable {ε δ σ τ α β : Type} {P : ε → Prop}

/-! ## Results -/

/-- Every failure has the property. -/
def FailsOnly (P : ε → Prop) (x : Except ε α) : Prop := ∀ e, x = .error e → P e

namespace FailsOnly

theorem ok (a : α) : FailsOnly P (.ok a : Except ε α) := nofun

theorem error {e : ε} (h : P e) : FailsOnly P (.error e : Except ε α) := by
  rintro _ ⟨⟩
  exact h

protected theorem bind {x : Except ε α} {f : α → Except ε β} (hx : FailsOnly P x) (hf : ∀ a, FailsOnly P (f a)) :
    FailsOnly P (x >>= f) := by
  rcases x with e | a
  · exact error (hx e rfl)
  · exact hf a

theorem mapError {x : Except ε α} {f : ε → δ} {Q : δ → Prop} (hx : FailsOnly P x) (h : ∀ e, P e → Q (f e)) :
    FailsOnly Q (x.mapError f) := by
  rcases x with e | a
  · exact error (h e (hx e rfl))
  · exact ok a

theorem map {x : Except ε α} (hx : FailsOnly P x) (f : α → β) : FailsOnly P (x.map f) := by
  rcases x with e | a
  · exact error (hx e rfl)
  · exact ok (f a)

theorem mapM {f : α → Except ε β} (hf : ∀ a, FailsOnly P (f a)) (l : List α) : FailsOnly P (l.mapM f) := by
  induction l with
  | nil => exact ok []
  | cons a l ih =>
    rw [List.mapM_cons]
    exact (hf a).bind fun b => ih.bind fun bs => ok (b :: bs)

theorem mono {Q : ε → Prop} {x : Except ε α} (hx : FailsOnly P x) (h : ∀ e, P e → Q e) : FailsOnly Q x :=
  fun e he => h e (hx e he)

end FailsOnly

namespace Attempt

/-- Every run that fails does so with such a failure. -/
def FailsOnly (P : ε → Prop) (x : Attempt ε σ α) : Prop := ∀ s, MultiCluster.FailsOnly P (x.run s).1

namespace FailsOnly

theorem of_ok {x : Attempt ε σ α} (h : ∀ s, ∃ a, (x.run s).1 = .ok a) : x.FailsOnly P := by
  intro s e he
  obtain ⟨a, ha⟩ := h s
  rw [ha] at he
  cases he

protected theorem pure (a : α) : (pure a : Attempt ε σ α).FailsOnly P := fun _ => .ok a

theorem fail {e : ε} (h : P e) : (Attempt.fail e : Attempt ε σ α).FailsOnly P := fun _ => .error h

theorem ofExcept {x : Except ε α} (h : MultiCluster.FailsOnly P x) : (Attempt.ofExcept x : Attempt ε σ α).FailsOnly P :=
  fun _ => h

protected theorem bind {x : Attempt ε σ α} {f : α → Attempt ε σ β} (hx : x.FailsOnly P) (hf : ∀ a, (f a).FailsOnly P) :
    (x >>= f).FailsOnly P := by
  intro s
  have h := hx s
  rw [run_bind]
  rcases hr : x.run s with ⟨e | a, t⟩ <;> rw [hr] at h
  · exact .error (h e rfl)
  · exact hf a t

theorem mapError {x : Attempt ε σ α} {f : ε → δ} {Q : δ → Prop} (hx : x.FailsOnly P) (h : ∀ e, P e → Q (f e)) :
    (x.mapError f).FailsOnly Q := by
  intro s
  rw [run_mapError]
  exact (hx s).mapError h

theorem within {x : Attempt ε σ α} (hx : x.FailsOnly P) (part : τ → σ) (put : σ → τ → τ) :
    (x.within part put).FailsOnly P :=
  fun t => hx (part t)

end FailsOnly

end Attempt

/-! ## Collecting answers -/

/-- A failure that is none of the server's. -/
def CommandFault.Local : CommandFault → Prop
  | .api _ => False
  | _ => True

namespace AnswerSources

open Yaml (Value)

theorem keyText_fails (key : Value) : FailsOnly CommandFault.Local (keyText key) := by
  unfold keyText
  split
  · exact .ok _
  · exact .error trivial

theorem readDocument_fails (text : String) : FailsOnly CommandFault.Local (readDocument text) := by
  unfold readDocument
  split
  · exact .ok _
  · exact .error trivial

theorem parseAnswers_fails (text : String) : FailsOnly CommandFault.Local (parseAnswers text) := by
  have hentry : ∀ e, FailsOnly CommandFault.Local (readEntry e) := fun e => by
    refine (keyText_fails e.1).bind fun key => ?_
    split
    · exact .ok _
    · exact .error trivial
  have hentries : ∀ v, FailsOnly CommandFault.Local (entries v) := fun v => by
    unfold entries
    split
    · exact .ok _
    · exact .mapM hentry _
    · exact .error trivial
  exact (readDocument_fails text).bind fun v => (hentries v).bind fun _ => .ok _

theorem leaf_fails (path : List Step) (text : String) : FailsOnly CommandFault.Local (leaf path text) := by
  unfold leaf
  split
  · exact .error trivial
  · exact .ok _

mutual

theorem leaves_fails (path : List Step) : (v : Value) → FailsOnly CommandFault.Local (leaves path v)
  | .null => by
    rw [leaves]
    exact .ok _
  | .bool b => by
    rw [leaves]
    exact leaf_fails path _
  | .number n => by
    rw [leaves]
    exact leaf_fails path _
  | .text s => by
    rw [leaves]
    exact leaf_fails path s
  | .sequence xs => by
    rw [leaves]
    exact leavesOfItems_fails path 0 xs
  | .mapping es => by
    rw [leaves]
    exact leavesOfEntries_fails path es
  | .tagged _ v => by
    rw [leaves]
    exact leaves_fails path v

theorem leavesOfItems_fails (path : List Step) (i : Nat) : (xs : List Value) →
    FailsOnly CommandFault.Local (leavesOfItems path i xs)
  | [] => by
    rw [leavesOfItems]
    exact .ok _
  | x :: r => by
    rw [leavesOfItems]
    exact (leaves_fails _ x).bind fun _ => (leavesOfItems_fails path (i + 1) r).bind fun _ => .ok _

theorem leavesOfEntries_fails (path : List Step) : (es : List (Value × Value)) →
    FailsOnly CommandFault.Local (leavesOfEntries path es)
  | [] => by
    rw [leavesOfEntries]
    exact .ok _
  | (k, x) :: r => by
    rw [leavesOfEntries]
    refine (keyText_fails k).bind fun _ => ?_
    exact (leaves_fails _ x).bind fun _ => (leavesOfEntries_fails path r).bind fun _ => .ok _

end

theorem parseValues_fails (text : String) : FailsOnly CommandFault.Local (parseValues text) :=
  (readDocument_fails text).bind fun v => (leaves_fails [] v).bind fun _ => .ok _

theorem parseSetting_fails (s : String) : FailsOnly CommandFault.Local (parseSetting s) := by
  unfold parseSetting
  split
  · exact .ok _
  · exact .error trivial

theorem fromFile_fails {files : Files} {what : String} {parse : String → Except CommandFault FlatAnswers}
    (h : ∀ text, FailsOnly CommandFault.Local (parse text)) :
    (path : Option String) → FailsOnly CommandFault.Local (fromFile files what parse path)
  | none => .ok ∅
  | some _ => .bind (.mapError (fun _ _ => trivial) fun _ (_ : True) => trivial) h

/-- Collecting answers fails for reasons of the command line and its files. -/
theorem collect_fails (files : Files) (seed : FlatAnswers) (sources : AnswerSources) :
    FailsOnly CommandFault.Local (collect files seed sources) := by
  refine (fromFile_fails parseAnswers_fails sources.answers).bind fun _ => ?_
  refine (fromFile_fails parseValues_fails sources.values).bind fun _ => ?_
  exact (FailsOnly.mapM parseSetting_fails sources.settings).bind fun _ => .ok _

end AnswerSources

/-! ## Asking for answers -/

theorem Question.ask_fails (q : Question) : q.ask.FailsOnly CommandFault.Local := by
  intro t
  show FailsOnly CommandFault.Local (q.askFrom t.input t.shown).1
  fun_induction Question.askFrom q t.input t.shown with
  | case1 => exact .ok _
  | case2 => exact .error trivial
  | case3 => exact .error trivial
  | case4 => exact .ok _
  | case5 => assumption

namespace Interview

theorem answerAll_fails (prompting : Bool) (qs : List Question) :
    (answerAll prompting qs).FailsOnly CommandFault.Local := by
  have hvalue : ∀ q, (value prompting q).FailsOnly CommandFault.Local := fun q => by
    unfold value
    split
    · exact q.ask_fails.within _ _
    · exact .pure _
  have hanswer : ∀ q, (answer prompting q).FailsOnly CommandFault.Local := fun q => by
    refine .bind (.of_ok fun i => ⟨i, rfl⟩) fun i => ?_
    split
    · exact .pure _
    · refine (hvalue q).bind fun v => ?_
      split
      · exact .pure _
      · exact .of_ok fun _ => ⟨(), rfl⟩
  induction qs with
  | nil => exact .pure _
  | cons q qs ih => exact (hanswer q).bind fun _ => ih

end Interview

/-! ## Asking the server -/

/-- Any fault but that a template does not offer a version. -/
def Fault.Unversioned : Fault → Prop
  | .invalidVersion .. => False
  | _ => True

def CommandFault.Unversioned : CommandFault → Prop
  | .api fault => fault.Unversioned
  | _ => True

theorem CommandFault.Local.unversioned {e : CommandFault} (h : e.Local) : e.Unversioned := by
  cases e with
  | api => exact h.elim
  | _ => trivial

/-! ### Listings -/

namespace Client

variable {σ : Type} [Client σ] {P : Fault → Prop} {kind : Kind}

/-- Draining fails as asking for a page does. -/
theorem drain_fails (h : ∀ page, (answer (.next kind page) : Attempt Fault σ _).FailsOnly P) (page : Page kind.Record) :
    Attempt.FailsOnly (σ := σ) P (drain kind page) := by
  intro s
  show FailsOnly P (drain kind page s).1
  refine drain_induction (motive := fun page s => FailsOnly P (drain kind page s).1) ?last ?more page s
  case last =>
    intro page s hp
    rw [drain_last hp]
    exact .ok _
  case more =>
    intro page s hp ih
    have hnext := h page s
    rcases hn : answer (.next kind page) s with ⟨e | _ | p, s'⟩
    · rw [drain_next_error hp hn]
      exact .error (hnext e (congrArg Prod.fst hn))
    · rw [drain_next_none hp hn]
      exact .ok _
    · rw [drain_next_some hp hn]
      exact (ih p s' hn).map _

theorem listAll_fails {filters : Dict String} (hlist : (answer (.list kind filters) : Attempt Fault σ _).FailsOnly P)
    (hnext : ∀ page, (answer (.next kind page) : Attempt Fault σ _).FailsOnly P) :
    (listAll kind filters : Attempt Fault σ _).FailsOnly P := .bind hlist fun page => drain_fails hnext page

end Client

/-- No call is answered with a fault about versions. -/
def Client.AnswersUnversioned (σ : Type) [Client σ] : Prop :=
  ∀ c : Call, (Client.answer c : Attempt Fault σ c.Reply).FailsOnly Fault.Unversioned

/-- A store is such a client. -/
theorem Store.answersUnversioned : Client.AnswersUnversioned Store := by
  intro c s
  cases c with
  | list | create | action | sleep => exact .ok _
  | next kind page =>
    show FailsOnly Fault.Unversioned (s.next kind page).1
    unfold Store.next
    split
    · exact .ok _
    · split
      · exact .error trivial
      · dsimp only
        split
        · exact .ok _
        · exact .error trivial
  | byId kind id =>
    show FailsOnly Fault.Unversioned (s.byId kind id).1
    unfold Store.byId
    dsimp only
    split
    · exact .ok _
    · exact .ok _
    · split
      · exact .ok _
      · exact .error trivial
  | update kind r =>
    intro e he
    obtain ⟨rfl, -⟩ := Store.update_fails_iff.1 he
    trivial
  | delete kind r =>
    intro e he
    obtain ⟨rfl, -⟩ := Store.delete_fails_iff.1 he
    trivial
  | link url =>
    show FailsOnly Fault.Unversioned (s.link url)
    unfold Store.link
    split
    · exact .ok _
    · exact .error trivial

namespace Client.AnswersUnversioned

variable {σ : Type} [Client σ] (h : Client.AnswersUnversioned σ)
include h

theorem session : Client.AnswersUnversioned (Session σ) := fun c => (h c).within _ _

theorem lookup (kind : Kind) (reference : String) (filters : Dict String) :
    (Client.lookup kind reference filters : Attempt Fault σ kind.Record).FailsOnly Fault.Unversioned := by
  unfold Client.lookup
  split
  · exact .fail trivial
  · refine .bind (Client.listAll_fails (h (.list kind _)) fun page => h (.next kind page)) fun rs => ?_
    match rs with
    | [] =>
      refine (h (.byId kind reference)).mapError fun e he => ?_
      split
      · trivial
      · exact he
    | [r] => exact .pure r
    | _ :: _ :: _ => exact .fail trivial

/-! ### Scopes -/

theorem resolveCluster (reference : String) :
    (Session.resolveCluster reference : Attempt Fault (Session σ) String).FailsOnly Fault.Unversioned := by
  refine .bind (.of_ok fun t => ⟨t, rfl⟩) fun t => ?_
  split
  · exact .pure _
  · exact (h.session.lookup .cluster reference ∅).bind fun c => .bind (.of_ok fun _ => ⟨(), rfl⟩) fun _ => .pure _

theorem resolveProject (scope : String) :
    (Session.resolveProject scope : Attempt Fault (Session σ) String).FailsOnly Fault.Unversioned := by
  refine .bind (.of_ok fun t => ⟨t, rfl⟩) fun t => ?_
  split
  · exact .pure _
  · refine (h.resolveCluster _).bind fun clusterId => .bind ?_ fun p => .bind (.of_ok fun _ => ⟨(), rfl⟩)
      fun _ => .pure _
    unfold Session.findProject
    split
    · exact h.session.lookup .project scope ∅
    · exact h.session.lookup .project _ _

theorem resolveTargets (specifiers : List String) :
    (Session.resolveTargets specifiers : Attempt Fault (Session σ) _).FailsOnly Fault.Unversioned := by
  induction specifiers with
  | nil => exact .pure _
  | cons specifier rest ih => exact (h.resolveProject specifier).bind fun _ => ih.bind fun _ => .pure _

theorem toAnswers (flat : FlatAnswers) :
    (FlatAnswers.toAnswers flat : Attempt Fault (Session σ) _).FailsOnly Fault.Unversioned := by
  have hscope : ∀ k, (FlatAnswers.resolveScope k : Attempt Fault (Session σ) _).FailsOnly Fault.Unversioned :=
    fun k => by
    cases k with
    | global => exact .pure _
    | cluster c key => exact h.resolveCluster c
    | project c p key => exact h.resolveProject (joinScope c p)
  have hfill : ∀ l b, (FlatAnswers.fill l b : Attempt Fault (Session σ) _).FailsOnly Fault.Unversioned := fun l => by
    induction l with
    | nil => exact fun b => .pure b
    | cons e l ih => exact fun b => (hscope (ScopedKey.parse e.1)).bind fun id => ih _
  exact (hfill flat.toList ∅).bind fun _ => .pure _

/-! ### Installing -/

theorem install (app : App) (policy : PollPolicy) :
    (App.install app policy : Attempt Fault σ App).FailsOnly Fault.Unversioned := by
  have hwait : ∀ id polls,
      (App.waitAtMost id policy.interval polls : Attempt Fault σ App).FailsOnly Fault.Unversioned :=
    fun id polls => by
      induction polls with
      | zero => exact .fail trivial
      | succ polls ih =>
        refine .bind (h (.sleep policy.interval)) fun _ => .bind (h (.byId .app id)) fun a => ?_
        split
        · exact .pure _
        · exact .fail trivial
        · exact .fail trivial
        · exact ih
  exact .bind (h (.create .app app)) fun created => hwait _ _

end Client.AnswersUnversioned

end MultiCluster
