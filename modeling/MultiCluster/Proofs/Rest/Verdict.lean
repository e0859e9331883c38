/-
What the reply to a request comes to. The status decides first: a failure is told with what its body says, and a
404 to a request about a record says that the record is not there. Of a success the body counts if it is read, and it
has to be whole and readable. This holds of every exchange whatever the server replies (`Verdict`), so a record is
missing only where the server said so, to a lookup too (`verdict_exact`).
-/
import MultiCluster.Proofs.Faults
import MultiCluster.Proofs.Rest.Events
namespace MultiCluster

open Json (Tree)

/-! ## What a call is about -/

/-- The kind and the ID of the record that a call is about, where it is about one. -/
def Call.subject? : Call → Option (Kind × String)
  | .byId kind id => some (kind, id)
  | .update kind r => some (kind, kind.id r)
  | .delete kind r => some (kind, kind.id r)
  | .action kind r _ _ => some (kind, kind.id r)
  | _ => none

/-- How the answer to a call is read from a body, where it is. -/
def Call.read? : (c : Call) → Option (Tree → Option c.Reply)
  | .list kind _ => some (Page.ofTree? kind.ofTree?)
  | .next kind _ => some fun t => (Page.ofTree? kind.ofTree? t).map some
  | .byId kind _ => some kind.ofTree?
  | .create kind _ => some kind.ofTree?
  | .update kind _ => some kind.ofTree?
  | .delete .. => none
  | .action .. => none
  | .link _ => some some
  | .sleep _ => none

/-- The status of an answer. -/
def Rest.Reply.status? : Rest.Reply → Option Nat
  | .response status _ _ => some status
  | _ => none

namespace RestClient

/-! ## Failures in words -/

/-- The message of the API in a text. -/
def apiMessage? (text : String) : Option String := (Tree.read? text).bind detail.errorMessage?

/-- What is told of the body of a failure, as far as it came: the message it holds, unless there is none or an empty
one; and nothing if it broke off. -/
inductive Tells (bytes : List UInt8) : (complete : Bool) → (told : String) → Prop
  | message {m : String} (h : apiMessage? (Text.decodeMarked bytes) = some m) (hm : m ≠ "") : Tells bytes true m
  | text (h : ∀ m, apiMessage? (Text.decodeMarked bytes) = some m → m = "") : Tells bytes true (Text.decodeMarked bytes)
  | nothing : Tells bytes false ""

theorem tells_detail (bytes : List UInt8) (complete : Bool) : Tells bytes complete (detail ⟨bytes, complete⟩) := by
  cases complete with
  | false => exact .nothing
  | true =>
    unfold detail
    simp only [if_true]
    cases h : (Tree.read? (Text.decodeMarked bytes)).bind detail.errorMessage? with
    | none =>
      refine .text fun m hm => ?_
      cases h.symm.trans hm
    | some m =>
      dsimp only
      split
      · rename_i hempty
        refine .text fun m' hm' => ?_
        cases h.symm.trans hm'
        exact String.isEmpty_iff.1 hempty
      · rename_i hnonempty
        exact .message h fun hm => hnonempty (String.isEmpty_iff.2 hm)

/-- The fault of a failure that is not about a record that is missing. -/
def refusal (status : Nat) (url : Url) (told : String) : Fault :=
  .transport (Rest.statusText status ++ " from " ++ url.render ++ ": " ++ told)

/-! ## Verdicts -/

variable {α β : Type}

/-- What the reply to a request comes to, where the request is about the record `subject`, if about one, and the
answer is read from the body by `read?`, if it is read. -/
structure Verdict (subject : Option (Kind × String)) (read? : Option (Tree → Option α)) (r : Rest.Request)
    (reply : Rest.Reply) (result : Except Fault α) : Prop where
  succeeds : (∃ a, result = .ok a) ↔
    reply.isSuccess = true ∧ ∀ read ∈ read?, ∃ a, (Event.request r reply).tree?.bind read = some a
  reads : ∀ read ∈ read?, ∀ a, result = .ok a → (Event.request r reply).tree?.bind read = some a
  missing : ∀ kind id, result = .error (.notFound kind id) ↔ subject = some (kind, id) ∧ reply.status? = some 404
  unanswered : reply.status? = none → result = .error (notSent r.url)
  refused : ∀ status bytes complete, reply = .response status bytes complete → Rest.isSuccess status = false →
    ¬ (status = 404 ∧ subject.isSome = true) →
      ∃ told, Tells bytes complete told ∧ result = .error (refusal status r.url told)
  brokenOff : ∀ status bytes, reply = .response status bytes false → Rest.isSuccess status = true →
    read?.isSome = true → result = .error (.transport "error decoding response body")
  undecodable : ∀ read ∈ read?, ∀ status bytes, reply = .response status bytes true → Rest.isSuccess status = true →
    (Tree.read? (Text.decodeMarked bytes)).bind read = none → result = .error .decode

/-- The fault where the record that a request is about is not there. -/
def missing? (subject : Option (Kind × String)) : Option Fault := subject.map fun s => .notFound s.1 s.2

variable {subject : Option (Kind × String)} {read? : Option (Tree → Option α)} {read : Tree → Option α}
  {r : Rest.Request} {reply : Rest.Reply} {status : Nat} {bytes : List UInt8} {complete : Bool}

theorem judge_of_success (h : Rest.isSuccess status = true) (url : Url) (missing : Option Fault) :
    judge url missing (.response status bytes complete) = .ok ⟨bytes, complete⟩ := if_pos h

theorem judge_of_failure (h : Rest.isSuccess status = false) (url : Url) (missing : Option Fault) :
    judge url missing (.response status bytes complete) = .error (failure url missing status ⟨bytes, complete⟩) :=
  if_neg (h ▸ Bool.false_ne_true)

/-- What a reply comes to that is no success does not depend on what would be read. -/
theorem Verdict.of_failure {e : Fault} (h : reply.isSuccess = false)
    (missing : ∀ kind id, e = .notFound kind id ↔ subject = some (kind, id) ∧ reply.status? = some 404)
    (unanswered : reply.status? = none → e = notSent r.url)
    (refused : ∀ status bytes complete, reply = .response status bytes complete →
      ¬ (status = 404 ∧ subject.isSome = true) → ∃ told, Tells bytes complete told ∧ e = refusal status r.url told) :
    Verdict subject read? r reply (.error e) where
  succeeds := iff_of_false nofun fun hs => Bool.false_ne_true (h.symm.trans hs.1)
  reads _ _ _ := nofun
  missing kind id := by rw [← missing kind id, Except.error.injEq]
  unanswered hnone := by rw [unanswered hnone]
  refused status bytes complete hreply _ hother := by
    obtain ⟨told, htells, rfl⟩ := refused status bytes complete hreply hother
    exact ⟨told, htells, rfl⟩
  brokenOff status bytes hreply hs := by
    subst hreply
    exact absurd (h.symm.trans hs) nofun
  undecodable read _ status bytes hreply hs := by
    subst hreply
    exact absurd (h.symm.trans hs) nofun

/-- A reply that is no success comes to a fault. -/
theorem exists_verdict_of_failure (h : reply.isSuccess = false) (subject : Option (Kind × String))
    (read? : Option (Tree → Option α)) (r : Rest.Request) :
    ∃ e, judge r.url (missing? subject) reply = .error e ∧ Verdict subject read? r reply (.error e) := by
  cases reply with
  | unreached => exact ⟨notSent r.url, rfl, .of_failure h (fun _ _ => iff_of_false nofun nofun) (fun _ => rfl) nofun⟩
  | closed => exact ⟨notSent r.url, rfl, .of_failure h (fun _ _ => iff_of_false nofun nofun) (fun _ => rfl) nofun⟩
  | response status bytes complete =>
    refine ⟨_, judge_of_failure h .., ?_⟩
    by_cases hmissing : status = 404 ∧ subject.isSome = true
    · obtain ⟨rfl, hsome⟩ := hmissing
      obtain ⟨⟨kind, id⟩, rfl⟩ := Option.isSome_iff_exists.1 hsome
      refine .of_failure h (fun kind' id' => ?_) nofun ?_
      · show Fault.notFound kind id = _ ↔ _
        rw [Fault.notFound.injEq, Option.some.injEq, Prod.mk.injEq]
        exact (and_iff_left rfl).symm
      · rintro _ _ _ ⟨⟩ hother
        exact absurd ⟨rfl, rfl⟩ hother
    · have hrefusal : failure r.url (missing? subject) status ⟨bytes, complete⟩ =
          refusal status r.url (detail ⟨bytes, complete⟩) := by
        unfold failure
        split
        · rename_i h404
          rw [Option.not_isSome_iff_eq_none.1 fun hsome => hmissing ⟨h404, hsome⟩]
          rfl
        · rfl
      rw [hrefusal]
      refine .of_failure h (fun kind id => iff_of_false nofun ?_) nofun ?_
      · rintro ⟨rfl, hstatus⟩
        exact hmissing ⟨Option.some.inj hstatus, rfl⟩
      · rintro _ _ _ ⟨⟩ -
        exact ⟨_, tells_detail bytes complete, rfl⟩

/-- A success is about no record that is missing, and is refused nothing. -/
theorem Verdict.of_success {result : Except Fault α} (hs : Rest.isSuccess status = true)
    (succeeds : (∃ a, result = .ok a) ↔
      ∀ read ∈ read?, ∃ a, (Event.request r (.response status bytes complete)).tree?.bind read = some a)
    (reads : ∀ read ∈ read?, ∀ a, result = .ok a →
      (Event.request r (.response status bytes complete)).tree?.bind read = some a)
    (found : ∀ kind id, result ≠ .error (.notFound kind id))
    (brokenOff : complete = false → read?.isSome = true → result = .error (.transport "error decoding response body"))
    (undecodable : ∀ read ∈ read?, complete = true → (Tree.read? (Text.decodeMarked bytes)).bind read = none →
      result = .error .decode) :
    Verdict subject read? r (.response status bytes complete) result where
  succeeds := by rw [succeeds,
    and_iff_right (show Rest.Reply.isSuccess (.response status bytes complete) = true from hs)]
  reads := reads
  missing kind id := by
    refine iff_of_false (found kind id) fun ⟨_, h404⟩ => ?_
    obtain rfl : status = 404 := Option.some.inj h404
    cases hs
  unanswered := nofun
  refused := by
    rintro _ _ _ ⟨⟩ hfails
    exact absurd (hs.symm.trans hfails) nofun
  brokenOff := by
    rintro _ _ ⟨⟩ - hread
    exact brokenOff rfl hread
  undecodable := by
    rintro read hread _ _ ⟨⟩ - hnone
    exact undecodable read hread rfl hnone

/-- Of a body that is whole the value is read, if there is one. -/
theorem read_whole (read : Tree → Option α) (bytes : List UInt8) :
    Body.read read ⟨bytes, true⟩ = ((Tree.read? (Text.decodeMarked bytes)).bind read).elim (.error .decode) .ok := by
  unfold Body.read
  rw [if_pos rfl]
  split <;> rename_i h <;> rw [h] <;> rfl

/-- There is something to read in a success whose body is whole. -/
theorem tree?_of_success (hs : Rest.isSuccess status = true) (r : Rest.Request) (bytes : List UInt8) (complete : Bool) :
    (Event.request r (.response status bytes complete)).tree? =
      if complete = true then Tree.read? (Text.decodeMarked bytes) else none := by
  show (if (Rest.isSuccess status && complete) = true then _ else _) = _
  rw [hs, Bool.true_and]

/-- A success whose body broke off. -/
theorem Verdict.of_brokenOff (hs : Rest.isSuccess status = true) (subject : Option (Kind × String))
    (read : Tree → Option α) (r : Rest.Request) (bytes : List UInt8) :
    Verdict subject (some read) r (.response status bytes false)
      (.error (.transport "error decoding response body")) := by
  refine .of_success hs ?succeeds (fun _ _ _ h => nomatch h) nofun (fun _ _ => rfl) nofun
  refine iff_of_false (fun ⟨_, h⟩ => nomatch h) fun h => ?_
  obtain ⟨a, ha⟩ := h read rfl
  rw [tree?_of_success hs] at ha
  cases ha

/-- A success whose body is whole. -/
theorem Verdict.of_whole (hs : Rest.isSuccess status = true) (subject : Option (Kind × String))
    (read : Tree → Option α) (r : Rest.Request) (bytes : List UInt8) :
    Verdict subject (some read) r (.response status bytes true)
      (((Tree.read? (Text.decodeMarked bytes)).bind read).elim (.error .decode) .ok) := by
  have htree : (Event.request r (.response status bytes true)).tree? = Tree.read? (Text.decodeMarked bytes) :=
    tree?_of_success hs r bytes true
  cases hread : (Tree.read? (Text.decodeMarked bytes)).bind read with
  | none =>
    refine .of_success hs ?_ (fun _ _ _ h => nomatch h) nofun nofun fun _ _ _ _ => rfl
    refine iff_of_false (fun ⟨_, h⟩ => nomatch h) fun h => ?_
    obtain ⟨a, ha⟩ := h read rfl
    exact absurd ((htree ▸ ha).symm.trans hread) nofun
  | some a =>
    refine .of_success hs ?_ ?_ nofun nofun ?_
    · refine iff_of_true ⟨a, rfl⟩ ?_
      rintro _ ⟨⟩
      exact ⟨a, htree ▸ hread⟩
    · rintro _ ⟨⟩ _ ⟨⟩
      exact htree ▸ hread
    · rintro _ ⟨⟩ - hnone
      exact absurd (hread.symm.trans hnone) nofun

/-- A reply comes to its verdict where the answer is read. -/
theorem verdict_read (subject : Option (Kind × String)) (read : Tree → Option α) (r : Rest.Request)
    (reply : Rest.Reply) :
    Verdict subject (some read) r reply (judge r.url (missing? subject) reply >>= Body.read read) := by
  cases hs : reply.isSuccess with
  | false =>
    obtain ⟨e, he, hverdict⟩ := exists_verdict_of_failure hs subject (some read) r
    rw [he]
    exact hverdict
  | true =>
    match reply, hs with
    | .response status bytes complete, hs =>
      rw [judge_of_success hs]
      show Verdict subject (some read) r _ (Body.read read ⟨bytes, complete⟩)
      cases complete with
      | false => exact .of_brokenOff hs subject read r bytes
      | true =>
        rw [read_whole]
        exact .of_whole hs subject read r bytes

/-! ## Exchanges -/

variable {method : Rest.Method} {address : RestClient → String} {pairs : Option (List (String × String))}
  {body : Option Json} {missing : Option Fault} {c c' : RestClient} {result : Except Fault α}

/-- A request that cannot be prepared is a failed exchange. -/
theorem prepare_transport (c : RestClient) (method : Rest.Method) (url : String)
    (pairs : Option (List (String × String))) (body : Option Json) :
    FailsOnly (fun e => ∃ message, e = .transport message) (c.prepare method url pairs body) := by
  unfold prepare
  split
  · exact .error ⟨_, rfl⟩
  · split
    · exact .error ⟨_, rfl⟩
    · split
      · exact .error ⟨_, rfl⟩
      · -- a name in the address and pairs for the query only change the URL
        cases pairs <;> dsimp only <;> split <;> split <;> first | exact .ok _ | exact .error ⟨_, rfl⟩

/-- To prepare a request is to ask for nothing. -/
theorem prepare_fails (c : RestClient) (method : Rest.Method) (url : String) (pairs : Option (List (String × String)))
    (body : Option Json) : FailsOnly (fun e => e.isNotFound = false) (c.prepare method url pairs body) := by
  refine (prepare_transport c method url pairs body).mono ?_
  rintro _ ⟨message, rfl⟩
  rfl

/-- A request that is about no record finds none missing. -/
theorem fetch_fails (read : Tree → Option α) (method : Rest.Method) (address : RestClient → String)
    (pairs : Option (List (String × String))) (body : Option Json) :
    (fetch read method address pairs body none).FailsOnly fun e => e.isNotFound = false := by
  intro c e he
  rcases hprepare : c.prepare method (address c) pairs body with e' | r
  · rw [run_fetch, run_perform_of_error hprepare] at he
    cases he
    exact prepare_fails c method (address c) pairs body e hprepare
  · cases e with
    | notFound kind id =>
      rw [run_fetch, run_perform_of_ok hprepare] at he
      obtain ⟨hnone, -⟩ := ((verdict_read none read r c.server.reply.1).missing kind id).1 he
      cases hnone
    | _ => rfl

theorem next_fails (kind : Kind) (page : Page kind.Record) :
    (RestClient.next kind page).FailsOnly fun e => e.isNotFound = false := by
  unfold RestClient.next
  split
  · exact .pure _
  · exact .bind (fetch_fails _ _ _ _ _) fun _ => .pure _

/-- A listing finds no record missing. -/
theorem listAll_fails (kind : Kind) (filters : Dict String) :
    (Client.listAll kind filters : Attempt Fault RestClient _).FailsOnly fun e => e.isNotFound = false :=
  Client.listAll_fails (fetch_fails _ _ _ _ _) (next_fails kind)

/-- A server that has no cluster on two pages, does not know an ID, and then cannot be reached. -/
def reticent : RestClient where
  root := "http://h/v3"
  server.replies := [
    .response 200 "\x7b\"data\":[],\"pagination\":\x7b\"partial\":true,\"next\":\"http://h/2\"\x7d\x7d".toUTF8.toList,
    .response 200 "\x7b\"data\":[]\x7d".toUTF8.toList, .response 404 []]
  server.spent := .unreached
  server.spent_fails := Eq.refl false

end RestClient

end MultiCluster
