/-
What the events of a client over HTTP tell. Every request leaves its reply behind it (`run_fetch_eq_ok`),
and one that only asks replaces nothing (`readsKeep`). So the events show the records that a listing
gave, page by page (`listed`), and the record that a lookup found: the only one of the listing, or the one
that was fetched where none was listed (`foundIn_of_lookup`).
-/
import MultiCluster.Proofs.Client.Reading
import MultiCluster.Proofs.Except
import MultiCluster.Proofs.Record.Wire
import MultiCluster.Rest.Client
namespace MultiCluster

open Json (Tree)

/-! ## Reading the events -/

namespace Event

/-- The JSON that the reply of a success holds. -/
def tree? : Event → Option Tree
  | .request _ (.response status bytes complete) =>
    if Rest.isSuccess status && complete then Tree.read? (Text.decodeMarked bytes) else none
  | _ => none

/-- What a request that replaces a record has as its body. -/
def replacement? : Event → Option (Option Json)
  | .request r _ => if r.method = .put then some r.body else none
  | .pause _ => none

/-- What the requests that replace a record have as their bodies. -/
def replacements (es : List Event) : List (Option Json) := es.filterMap replacement?

theorem replacements_append (es es' : List Event) : replacements (es ++ es') = replacements es ++ replacements es' :=
  List.filterMap_append

/-- The page that a reply holds, its records as they came. -/
def page? (e : Event) : Option (Page Tree) := e.tree?.bind (Page.ofTree? some)

/-- The records of a listing that the events begin with, page by page, and the events behind it. -/
def listed : List Event → Option (List Tree × List Event)
  | [] => none
  | e :: es => do
    let page ← e.page?
    if page.isPartial && page.next?.isSome then
      let (records, rest) ← listed es
      return (page.records ++ records, rest)
    else return (page.records, es)

/-- The record that a lookup found which the events begin with. -/
def foundIn (es : List Event) : Option Tree := do
  match ← listed es with
  | ([o], _) => some o
  | ([], e :: _) => e.tree?
  | _ => none

/-- The reply holds the page, whose records can be read from it as they came. -/
def Carries (e : Event) (kind : Kind) (page : Page kind.Record) : Prop :=
  ∃ q, e.page? = some q ∧ q.pagination = page.pagination ∧ q.records.mapM kind.ofTree? = some page.records

variable {e : Event} {es rest : List Event} {page : Page Tree} {records : List Tree}

theorem listed_last (he : e.page? = some page) (hlast : (page.isPartial && page.next?.isSome) = false)
    (es : List Event) :
    listed (e :: es) = some (page.records, es) := by
  rw [listed, he]
  exact if_neg (hlast ▸ Bool.false_ne_true)

theorem listed_more (he : e.page? = some page) (hmore : (page.isPartial && page.next?.isSome) = true)
    (htail : listed es = some (records, rest)) : listed (e :: es) = some (page.records ++ records, rest) := by
  rw [listed, he]
  simp only [Option.bind_eq_bind, Option.bind_some, hmore, if_true, htail]
  rfl

/-- Events that come later are behind the listing. -/
theorem listed_append (h : listed es = some (records, rest)) (more : List Event) :
    listed (es ++ more) = some (records, rest ++ more) := by
  induction es generalizing records rest with
  | nil => cases h
  | cons e es ih =>
    obtain ⟨page, hpage, h⟩ := Option.bind_eq_some_iff.1 h
    split at h
    · rename_i hmore
      obtain ⟨⟨records', rest'⟩, htail, h⟩ := Option.bind_eq_some_iff.1 h
      cases h
      exact listed_more hpage hmore (ih htail)
    · rename_i hlast
      cases h
      exact listed_last hpage (Bool.eq_false_iff.2 hlast) (es ++ more)

theorem foundIn_append {o : Tree} (h : foundIn es = some o) (more : List Event) :
    foundIn (es ++ more) = some o := by
  obtain ⟨⟨records, rest⟩, hlisted, h⟩ := Option.bind_eq_some_iff.1 h
  rw [foundIn, listed_append hlisted]
  rcases records with _ | ⟨o', _ | ⟨_, _⟩⟩
  · rcases rest with _ | ⟨e, rest⟩
    · cases h
    · exact h
  · exact h
  · cases h

/-- The second list goes on from the first one without replacing a record. -/
def Asks (es es' : List Event) : Prop := ∃ more, es' = es ++ more ∧ replacements more = []

theorem Asks.refl (es : List Event) : Asks es es := ⟨[], (List.append_nil es).symm, rfl⟩

theorem Asks.trans {es es' es'' : List Event} (h : Asks es es') (h' : Asks es' es'') : Asks es es'' := by
  obtain ⟨more, rfl, hmore⟩ := h
  obtain ⟨more', rfl, hmore'⟩ := h'
  refine ⟨more ++ more', List.append_assoc .., ?_⟩
  rw [replacements_append, hmore, hmore']
  rfl

instance : IsPreorder (List Event) Asks where
  refl := Asks.refl
  trans _ _ _ := Asks.trans

theorem Asks.of_request (es : List Event) {r : Rest.Request} (h : r.method ≠ .put) (reply : Rest.Reply) :
    Asks es (es ++ [.request r reply]) := by
  refine ⟨_, rfl, ?_⟩
  simp [replacements, replacement?, h]

end Event

/-! ## Requests and their replies -/

namespace RestClient

open Event

variable {method : Rest.Method} {address : RestClient → String} {pairs : Option (List (String × String))}
  {body : Option Json} {missing : Option Fault} {c c' : RestClient}

theorem prepare_eq_ok {url : String} {r : Rest.Request} (h : c.prepare method url pairs body = .ok r) :
    r.method = method ∧ r.body = body := by
  unfold prepare at h
  split at h
  · cases h
  · split at h
    · cases h
    · split at h
      · cases h
      · -- a name in the address and pairs for the query only change the URL
        cases pairs <;> dsimp only at h <;> split at h <;> split at h <;> cases h <;> exact ⟨rfl, rfl⟩

/-- A request that cannot be prepared is not sent. -/
theorem run_perform_of_error {e : Fault} (h : c.prepare method (address c) pairs body = .error e) :
    (perform method address pairs body missing).run c = (.error e, c) := by
  unfold perform
  rw [Attempt.run_bind_ok (Attempt.run_get c), Attempt.run_bind, Attempt.run_ofExcept, h]

/-- A request that is sent is noted with the reply to it. -/
theorem run_perform_of_ok {r : Rest.Request} (h : c.prepare method (address c) pairs body = .ok r) :
    (perform method address pairs body missing).run c =
      (judge r.url missing c.server.reply.1,
        { c with server := c.server.reply.2, events := c.events ++ [.request r c.server.reply.1] }) := by
  unfold perform
  rw [Attempt.run_bind_ok (Attempt.run_get c), Attempt.run_bind, Attempt.run_ofExcept, h]
  rfl

/-- A request is not sent, or it is noted with the reply to it. -/
theorem run_perform (method : Rest.Method) (address : RestClient → String) (pairs : Option (List (String × String)))
    (body : Option Json) (missing : Option Fault) (c : RestClient) :
    (∃ e, (perform method address pairs body missing).run c = (.error e, c)) ∨
      ∃ r reply, r.method = method ∧ r.body = body ∧
        (perform method address pairs body missing).run c =
          (judge r.url missing reply,
            { c with server := c.server.reply.2, events := c.events ++ [.request r reply] }) := by
  rcases hr : c.prepare method (address c) pairs body with e | r
  · exact .inl ⟨e, run_perform_of_error hr⟩
  · obtain ⟨hmethod, hbody⟩ := prepare_eq_ok hr
    exact .inr ⟨r, c.server.reply.1, hmethod, hbody, run_perform_of_ok hr⟩

/-- To read the answer is no exchange of its own. -/
theorem run_fetch {α : Type} (read : Tree → Option α) (method : Rest.Method) (address : RestClient → String)
    (pairs : Option (List (String × String))) (body : Option Json) (missing : Option Fault) (c : RestClient) :
    (fetch read method address pairs body missing).run c =
      (((perform method address pairs body missing).run c).1 >>= Body.read read,
        ((perform method address pairs body missing).run c).2) := Attempt.run_bind_ofExcept _ _ c

/-- The body of a success is what its reply holds. -/
theorem tree?_of_read {α : Type} {read : Tree → Option α} {a : α} {r : Rest.Request} {reply : Rest.Reply} {b : Body}
    (hj : judge r.url missing reply = .ok b) (hb : b.read read = .ok a) :
    (Event.request r reply).tree?.bind read = some a := by
  cases reply with
  | response status bytes complete =>
    simp only [judge] at hj
    split at hj
    · rename_i hs
      cases hj
      unfold Body.read at hb
      split at hb
      · rename_i hc
        split at hb
        · rename_i a' ha
          cases hb
          have hc : complete = true := hc
          simp only [tree?, hs, hc, Bool.and_self, if_true]
          exact ha
        · cases hb
      · cases hb
    · cases hj
  | unreached => cases hj
  | closed => cases hj

/-- An answer that was read is what the reply to the request holds. -/
theorem run_fetch_eq_ok {α : Type} {read : Tree → Option α} {a : α}
    (h : (fetch read method address pairs body missing).run c = (.ok a, c')) :
    ∃ r reply, r.method = method ∧ r.body = body ∧ c'.events = c.events ++ [.request r reply] ∧
      (Event.request r reply).tree?.bind read = some a := by
  obtain ⟨b, c₁, hb, hread⟩ := Attempt.run_bind_eq_ok_iff.1 h
  rcases run_perform method address pairs body missing c with ⟨e, he⟩ | ⟨r, reply, hmethod, hbody, hrun⟩
  · rw [he] at hb
    cases hb
  · rw [hrun] at hb
    obtain ⟨hj, rfl⟩ := Prod.mk.inj hb
    obtain ⟨hok, rfl⟩ := Prod.mk.inj hread
    exact ⟨r, reply, hmethod, hbody, rfl, tree?_of_read hj hok⟩

theorem keeps_perform (h : method ≠ .put) : (perform method address pairs body missing).Keeps events Asks := fun c => by
  rcases run_perform method address pairs body missing c with ⟨e, he⟩ | ⟨r, reply, hmethod, -, hrun⟩
  · rw [he]
    exact .refl _
  · rw [hrun]
    exact .of_request _ (hmethod ▸ h) reply

theorem keeps_fetch {α : Type} {read : Tree → Option α} (h : method ≠ .put) :
    (fetch read method address pairs body missing).Keeps events Asks :=
  .bind (keeps_perform h) fun _ => .of_run_eq fun _ => rfl

/-- Calls that only ask replace nothing. -/
theorem readsKeep : Client.ReadsKeep RestClient.events Asks := by
  have hget : Rest.Method.get ≠ .put := by decide
  intro c hc
  cases c with
  | list kind filters => exact keeps_fetch hget
  | next kind page =>
    show (RestClient.next kind page).Keeps events Asks
    unfold RestClient.next
    split
    · exact .pure _
    · exact .bind (keeps_fetch hget) fun _ => .pure _
  | byId kind id => exact keeps_fetch hget
  | link url => exact keeps_fetch hget
  | sleep time => exact fun c => ⟨[.pause time], rfl, rfl⟩
  | create | update | delete | action => exact hc.elim

/-! ## What was found -/

variable {kind : Kind}

/-- A page that was read is what the reply to the request for it holds. -/
theorem carries_of_fetch {page : Page kind.Record}
    (h : (fetch (Page.ofTree? kind.ofTree?) method address pairs body missing).run c = (.ok page, c')) :
    ∃ e, c'.events = c.events ++ [e] ∧ e.Carries kind page := by
  obtain ⟨r, reply, -, -, hevents, hread⟩ := run_fetch_eq_ok h
  obtain ⟨t, ht, hpage⟩ := Option.bind_eq_some_iff.1 hread
  obtain ⟨q, hq, hpagination, hrecords⟩ := Wire.page_of_page hpage
  exact ⟨_, hevents, q, Option.bind_eq_some_iff.2 ⟨t, ht, hq⟩, hpagination, hrecords⟩

/-- The next page of a listing is asked for where the page names one. -/
theorem run_next_eq_ok {page : Page kind.Record} {next : Option (Page kind.Record)}
    (h : Client.answer (.next kind page) c = (.ok next, c')) :
    (next = none ∧ page.next? = none ∧ c' = c) ∨
      ∃ p e, next = some p ∧ page.next?.isSome = true ∧ c'.events = c.events ++ [e] ∧ e.Carries kind p := by
  change (RestClient.next kind page).run c = _ at h
  unfold RestClient.next at h
  split at h
  · rename_i hnone
    cases h
    exact .inl ⟨rfl, hnone, rfl⟩
  · rename_i url hurl
    obtain ⟨p, c₁, hfetch, h⟩ := Attempt.run_bind_eq_ok_iff.1 h
    cases h
    obtain ⟨e, hevents, he⟩ := carries_of_fetch hfetch
    exact .inr ⟨p, e, rfl, by rw [hurl]; rfl, hevents, he⟩

/-- The events of draining go on from the one that carries the first page. -/
theorem listed_of_drain {page : Page kind.Record} {rs : List kind.Record} {e : Event} (he : e.Carries kind page)
    (h : Client.drain kind page c = (.ok rs, c')) :
    ∃ es ts, c'.events = c.events ++ es ∧ listed (e :: es) = some (ts, []) ∧ ts.mapM kind.ofTree? = some rs := by
  refine Client.drain_induction (motive := fun page c => ∀ (rs : List kind.Record) e, e.Carries kind page →
    Client.drain kind page c = (.ok rs, c') → ∃ es ts, c'.events = c.events ++ es ∧ listed (e :: es) = some (ts, []) ∧
      ts.mapM kind.ofTree? = some rs) ?last ?more page c rs e he h
  case last =>
    rintro page c hlast rs e ⟨q, hq, hpagination, hrecords⟩ h
    rw [Client.drain_last hlast] at h
    cases h
    have hlast' : q.isPartial = false := by rw [← hlast, Page.isPartial, hpagination]; rfl
    exact ⟨[], q.records, (List.append_nil _).symm, listed_last hq (by rw [hlast']; rfl) [], hrecords⟩
  case more =>
    rintro page c hpartial ih rs e ⟨q, hq, hpagination, hrecords⟩ h
    have hpartial' : q.isPartial = true := by rw [← hpartial, Page.isPartial, hpagination]; rfl
    have hnext : q.next? = page.next? := by rw [Page.next?, hpagination]; rfl
    rcases hn : Client.answer (.next kind page) c with ⟨e' | next, c₁⟩
    · rw [Client.drain_next_error hpartial hn] at h
      cases h
    · rcases run_next_eq_ok hn with ⟨rfl, hnone, rfl⟩ | ⟨p, e₁, rfl, hsome, hevents, hcarries⟩
      · rw [Client.drain_next_none hpartial hn] at h
        cases h
        exact ⟨[], q.records, (List.append_nil _).symm,
          listed_last hq (by rw [hnext, hnone, hpartial']; rfl) [], hrecords⟩
      · rw [Client.drain_next_some hpartial hn] at h
        obtain ⟨hmap, hc'⟩ := Prod.mk.inj h
        obtain ⟨rest, hrest, rfl⟩ := map_eq_ok hmap
        obtain ⟨es, ts, hes, hlisted, hread⟩ := ih p c₁ hn rest e₁ hcarries (Prod.ext hrest hc')
        refine ⟨e₁ :: es, q.records ++ ts, ?_, listed_more hq (by rw [hpartial', hnext, hsome]; rfl) hlisted, ?_⟩
        · rw [hes, hevents, List.append_assoc, List.singleton_append]
        · rw [List.mapM_append, hrecords, hread]
          rfl

/-- The records of a listing, all pages together, as they came. -/
theorem listed_of_listAll {filters : Dict String} {rs : List kind.Record}
    (h : (Client.listAll kind filters).run c = (.ok rs, c')) :
    ∃ es ts, c'.events = c.events ++ es ∧ listed es = some (ts, []) ∧ ts.mapM kind.ofTree? = some rs := by
  obtain ⟨page, c₁, hfetch, hdrain⟩ := Attempt.run_bind_eq_ok_iff.1 h
  obtain ⟨e, hevents, he⟩ := carries_of_fetch hfetch
  obtain ⟨es, ts, hes, hlisted, hread⟩ := listed_of_drain he hdrain
  exact ⟨e :: es, ts, by rw [hes, hevents, List.append_assoc, List.singleton_append], hlisted, hread⟩

/-- The record that a lookup gave, as it came. -/
theorem foundIn_of_lookup {reference : String} {filters : Dict String} {a : kind.Record}
    (h : (Client.lookup kind reference filters).run c = (.ok a, c')) :
    ∃ es o, c'.events = c.events ++ es ∧ foundIn es = some o ∧ kind.ofTree? o = some a := by
  unfold Client.lookup at h
  split at h
  · cases h
  · obtain ⟨rs, c₁, hlist, h⟩ := Attempt.run_bind_eq_ok_iff.1 h
    obtain ⟨es, ts, hes, hlisted, hread⟩ := listed_of_listAll hlist
    match rs, h with
    | [], h =>
      obtain rfl : ts = [] := List.length_eq_zero_iff.1 (Wire.length_of_mapM hread).symm
      rw [Attempt.run_mapError] at h
      rcases hbyId : (Client.byId kind reference).run c₁ with ⟨e | a', c₂⟩ <;> rw [hbyId] at h <;> cases h
      obtain ⟨r, reply, -, -, hevents, hanswer⟩ := run_fetch_eq_ok hbyId
      obtain ⟨o, ho, hrecord⟩ := Option.bind_eq_some_iff.1 hanswer
      refine ⟨es ++ [.request r reply], o, ?_, ?_, hrecord⟩
      · rw [hevents, hes, List.append_assoc]
      · rw [foundIn, listed_append hlisted]
        exact ho
    | [r], h =>
      cases h
      obtain ⟨o, rfl⟩ := List.length_eq_one_iff.1 (Wire.length_of_mapM hread).symm
      obtain ⟨_, _, ho, -, hr⟩ := Wire.mapM_cons_eq_some hread
      cases hr
      refine ⟨es, o, hes, ?_, ho⟩
      rw [foundIn, hlisted]
      rfl
    | _ :: _ :: _, h => cases h

end RestClient

end MultiCluster
