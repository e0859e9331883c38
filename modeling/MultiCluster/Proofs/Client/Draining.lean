/-
Draining told page by page. A page goes on where it is partial and names a next one, and from a first page
such pages lead on, one request for each, to the page that the client is then at (`Leads`). Draining gives
the records of all of them once the last one does not go on, and the fault of the first request that fails
(`Leads.drain_eq`). Each page that is handed out lessens the supply of the client, so the requests are at
most one more than the supply, wherever the pages lead (`pageRequests_le`). The supply is what the store has
of pages that wait, and what the server has of replies that are left.
-/
import MultiCluster.Proofs.Client.Calls
import MultiCluster.Proofs.Rest.Events
import MultiCluster.Store
namespace MultiCluster

/-- More pages remain, and the page says where. -/
def Page.goesOn {α : Type} (p : Page α) : Bool := p.isPartial && p.next?.isSome

/-- The call asks for a page at the place that another one names. -/
def Call.asksForPage : Call → Bool
  | .next _ page => page.next?.isSome
  | _ => false

namespace Client

/-- The client has no page behind one that names none; behind any other it has a page or a fault. -/
class Linked (σ : Type) [Client σ] : Prop where
  next_eq_none_iff : ∀ (kind : Kind) (page : Page kind.Record) (s : σ),
    (answer (.next kind page) s).1 = .ok none ↔ page.next? = none

instance : Linked Store where
  next_eq_none_iff kind page s := by
    show (s.next kind page).1 = .ok none ↔ _
    unfold Store.next
    split
    · rename_i hnone
      exact iff_of_true rfl hnone
    · rename_i url hurl
      have hsome : page.next? ≠ none := by rw [hurl]; nofun
      split
      · exact iff_of_false nofun hsome
      · dsimp only
        split <;> exact iff_of_false nofun hsome

instance : Linked RestClient where
  next_eq_none_iff kind page c := by
    rcases hn : answer (.next kind page) c with ⟨e | next, c'⟩
    · refine iff_of_false nofun fun hnone => ?_
      change (RestClient.next kind page).run c = _ at hn
      unfold RestClient.next at hn
      rw [hnone] at hn
      cases hn
    · rcases RestClient.run_next_eq_ok hn with ⟨rfl, hnone, -⟩ | ⟨p, e, rfl, hsome, -⟩
      · exact iff_of_true rfl hnone
      · refine iff_of_false nofun fun hnone => ?_
        rw [hnone] at hsome
        cases hsome

instance {σ : Type} [Client σ] [Linked σ] : Linked (Traced σ) where
  next_eq_none_iff kind page t := Linked.next_eq_none_iff kind page t.client

variable {σ : Type} [Client σ] {kind : Kind} {page last : Page kind.Record} {passed : List (Page kind.Record)}
  {s t : σ}

/-! ## Pages one after the other -/

/-- From a page on, the pages `passed` go on, each to the next of them, and the last of them to the page `last`,
at which the client is in the state `t`. -/
inductive Leads (kind : Kind) : Page kind.Record → σ → List (Page kind.Record) → Page kind.Record → σ → Prop
  | here (page : Page kind.Record) (s : σ) : Leads kind page s [] page s
  | on {page p last : Page kind.Record} {passed : List (Page kind.Record)} {s s' t : σ} (hp : page.goesOn = true)
      (hn : answer (.next kind page) s = (.ok (some p), s')) (h : Leads kind p s' passed last t) :
      Leads kind page s (page :: passed) last t

theorem isPartial_of_goesOn (h : page.goesOn = true) : page.isPartial = true := (Bool.and_eq_true_iff.1 h).1

/-- What is drained from the first page is what is drained from the last, behind the records passed. -/
theorem Leads.drain_eq (h : Leads kind page s passed last t) :
    drain kind page s = ((drain kind last t).1.map (passed.flatMap Page.records ++ ·), (drain kind last t).2) := by
  induction h with
  | here page s => rcases drain kind page s with ⟨_ | _, _⟩ <;> rfl
  | on hp hn _ ih =>
    rw [drain_next_some (isPartial_of_goesOn hp) hn, ih]
    rcases drain _ _ _ with ⟨_ | rest, _⟩
    · rfl
    · simp [Except.map, List.append_assoc]

/-- Each page that is passed lessens the supply. -/
theorem Leads.length_le (h : Leads kind page s passed last t) : passed.length + supply t ≤ supply s := by
  induction h with
  | here page s => simp
  | on _ hn _ ih =>
    have hless := supply_next kind _ _ _ _ hn
    rw [List.length_cons]
    omega

/-- A client that records its calls writes one request down for each page that is passed. -/
theorem Leads.traced (h : Leads kind page s passed last t) (before : List Call) :
    ∃ calls, Leads kind page (⟨s, before⟩ : Traced σ) passed last ⟨t, calls ++ before⟩ ∧
      calls.countP Call.asksForPage = passed.length := by
  induction h generalizing before with
  | here page s => exact ⟨[], .here page _, rfl⟩
  | @on page p _ _ s s' _ hp hn _ ih =>
    obtain ⟨calls, hleads, hcount⟩ := ih (.next kind page :: before)
    refine ⟨calls ++ [.next kind page], ?_, ?_⟩
    · rw [List.append_assoc]
      exact .on hp (answer_traced hn before) hleads
    · have hasks : Call.asksForPage (.next kind page) = true := (Bool.and_eq_true_iff.1 hp).2
      rw [List.countP_append, hcount, List.countP_singleton, if_pos hasks, List.length_cons]

/-- The pages lead to one that does not go on, or to one behind which the client has only a fault. -/
theorem exists_leads [Linked σ] (kind : Kind) (page : Page kind.Record) (s : σ) :
    ∃ passed last t, Leads kind page s passed last t ∧
      (last.goesOn = false ∨ last.goesOn = true ∧ ∃ e, (answer (.next kind last) t).1 = .error e) := by
  refine drain_induction (motive := fun page s => ∃ passed last t, Leads kind page s passed last t ∧
    (last.goesOn = false ∨ last.goesOn = true ∧ ∃ e, (answer (.next kind last) t).1 = .error e)) ?last ?more page s
  case last =>
    intro page s hlast
    exact ⟨[], page, s, .here page s, .inl (by rw [Page.goesOn, hlast, Bool.false_and])⟩
  case more =>
    intro page s hpartial ih
    have hnone := Linked.next_eq_none_iff kind page s
    have hgoes : (answer (.next kind page) s).1 ≠ .ok none → page.goesOn = true := fun h => by
      rw [Page.goesOn, hpartial, Bool.true_and, Option.isSome_iff_ne_none]
      exact mt hnone.2 h
    rcases hn : answer (.next kind page) s with ⟨e | _ | p, s'⟩ <;> rw [hn] at hnone hgoes
    · exact ⟨[], page, s, .here page s, .inr ⟨hgoes nofun, e, by rw [hn]⟩⟩
    · exact ⟨[], page, s, .here page s, .inl (by rw [Page.goesOn, hnone.1 rfl, Option.isSome_none, Bool.and_false])⟩
    · obtain ⟨passed, last, t, hleads, hend⟩ := ih p s' hn
      exact ⟨page :: passed, last, t, .on (hgoes nofun) hn hleads, hend⟩

/-! ## The last page -/

/-- A partial page that does not go on names no next one. -/
theorem next?_of_not_goesOn (h : last.goesOn = false) (hpartial : last.isPartial = true) : last.next? = none := by
  rw [Page.goesOn, hpartial, Bool.true_and] at h
  exact Option.isSome_eq_false_iff.1 h |> Option.isNone_iff_eq_none.1

/-- A page that does not go on is the last one, and no page is asked for. -/
theorem drain_of_not_goesOn [Linked σ] (h : last.goesOn = false) (t : σ) (before : List Call) :
    (drain kind last t).1 = .ok last.records ∧
      (drain kind last (⟨t, before⟩ : Traced σ)).2.calls.countP Call.asksForPage = before.countP Call.asksForPage := by
  cases hpartial : last.isPartial with
  | false => exact ⟨by rw [drain_last hpartial], by rw [drain_last hpartial]⟩
  | true =>
    have hunlinked := next?_of_not_goesOn h hpartial
    have hnone := (Linked.next_eq_none_iff kind last t).2 hunlinked
    rcases hn : answer (.next kind last) t with ⟨r, t'⟩
    rw [hn] at hnone
    obtain rfl : r = .ok none := hnone
    rw [drain_next_none hpartial hn, drain_next_none hpartial (answer_traced hn before)]
    refine ⟨rfl, ?_⟩
    rw [List.countP_cons_of_neg]
    simp [Call.asksForPage, hunlinked]

/-- A page behind which the client has only a fault is asked for once. -/
theorem drain_of_error {e : Fault} (h : last.goesOn = true) (he : (answer (.next kind last) t).1 = .error e)
    (before : List Call) :
    drain kind last t = (.error e, (answer (.next kind last) t).2) ∧
      (drain kind last (⟨t, before⟩ : Traced σ)).2.calls.countP Call.asksForPage =
        before.countP Call.asksForPage + 1 := by
  have hpartial := isPartial_of_goesOn h
  rcases hn : answer (.next kind last) t with ⟨r, t'⟩
  rw [hn] at he
  obtain rfl : r = .error e := he
  rw [drain_next_error hpartial hn, drain_next_error hpartial (answer_traced hn before)]
  refine ⟨rfl, ?_⟩
  rw [List.countP_cons_of_pos]
  exact (Bool.and_eq_true_iff.1 h).2

/-! ## Draining as a whole -/

/-- How many pages draining asks for. -/
def pageRequests (kind : Kind) (page : Page kind.Record) (s : σ) : Nat :=
  (drain kind page (⟨s, []⟩ : Traced σ)).2.calls.countP Call.asksForPage

/-- Draining ends, and with all the records up to the first page that does not go on, each page asked for once;
or with the first fault. -/
structure DrainsExactly (kind : Kind) (page : Page kind.Record) (s : σ) : Prop where
  ends : ∃ passed last t, Leads kind page s passed last t ∧
    (last.goesOn = false ∨ last.goesOn = true ∧ ∃ e, (answer (.next kind last) t).1 = .error e)
  collects : ∀ passed last t, Leads kind page s passed last t → last.goesOn = false →
    (drain kind page s).1 = .ok ((passed ++ [last]).flatMap Page.records) ∧ pageRequests kind page s = passed.length
  fails : ∀ passed last t e, Leads kind page s passed last t → last.goesOn = true →
    (answer (.next kind last) t).1 = .error e →
      (drain kind page s).1 = .error e ∧ pageRequests kind page s = passed.length + 1

theorem drainsExactly [Linked σ] (kind : Kind) (page : Page kind.Record) (s : σ) : DrainsExactly kind page s := by
  constructor
  case ends => exact exists_leads kind page s
  case collects =>
    intro passed last t h hlast
    obtain ⟨calls, htraced, hcount⟩ := h.traced []
    obtain ⟨hrecords, hnone⟩ := drain_of_not_goesOn hlast t (calls ++ [])
    refine ⟨?_, ?_⟩
    · rw [h.drain_eq, hrecords, List.flatMap_append, List.flatMap_singleton]
      rfl
    · rw [pageRequests, htraced.drain_eq, hnone, List.append_nil, hcount]
  case fails =>
    intro passed last t e h hlast he
    obtain ⟨calls, htraced, hcount⟩ := h.traced []
    obtain ⟨hfault, hone⟩ := drain_of_error hlast he (calls ++ [])
    refine ⟨?_, ?_⟩
    · rw [h.drain_eq, hfault]
      rfl
    · rw [pageRequests, htraced.drain_eq, hone, List.append_nil, hcount]

/-- One request more than the supply is enough, as one that gets no page is the last. -/
theorem pageRequests_le [Linked σ] (kind : Kind) (page : Page kind.Record) (s : σ) :
    pageRequests kind page s ≤ supply s + 1 := by
  obtain ⟨⟨passed, last, t, h, hend⟩, hcollects, hfails⟩ := drainsExactly kind page s
  have hless := h.length_le
  rcases hend with hlast | ⟨hlast, e, he⟩
  · have := (hcollects passed last t h hlast).2
    omega
  · have := (hfails passed last t e h hlast he).2
    omega

end Client

/-! ## Draining over HTTP -/

namespace RestClient

open Client

variable {kind : Kind} {page last : Page kind.Record} {passed : List (Page kind.Record)} {c c' : RestClient}

/-- Each page that is passed took one exchange. -/
theorem events_of_leads (h : Leads kind page c passed last c') :
    ∃ es, c'.events = c.events ++ es ∧ es.length = passed.length := by
  induction h with
  | here page c => exact ⟨[], (List.append_nil _).symm, rfl⟩
  | on _ hn _ ih =>
    obtain ⟨es, hes, hlength⟩ := ih
    rcases run_next_eq_ok hn with ⟨hnone, -⟩ | ⟨p, e, -, -, he, -⟩
    · cases hnone
    · refine ⟨e :: es, ?_, by rw [List.length_cons, List.length_cons, hlength]⟩
      rw [hes, he, List.append_assoc, List.singleton_append]

/-- To ask for a page takes one exchange at most. -/
theorem events_next (kind : Kind) (page : Page kind.Record) (c : RestClient) :
    ∃ es, (Client.answer (.next kind page) c).2.events = c.events ++ es ∧ es.length ≤ 1 := by
  show ∃ es, ((RestClient.next kind page).run c).2.events = c.events ++ es ∧ es.length ≤ 1
  unfold RestClient.next
  split
  · exact ⟨[], (List.append_nil _).symm, Nat.zero_le 1⟩
  · rename_i url _
    have hsome := Attempt.run_bind_ofExcept
      (fetch (Page.ofTree? kind.ofTree?) .get (fun _ => url) none none none) (fun p => .ok (some p)) c
    rw [run_fetch] at hsome
    have hstate := congrArg (RestClient.events ∘ Prod.snd) hsome
    dsimp only [Function.comp] at hstate
    rcases run_perform .get (fun _ => url) none none none c with ⟨e, he⟩ | ⟨r, reply, -, -, hrun⟩
    · refine ⟨[], hstate.trans ?_, Nat.zero_le 1⟩
      rw [he, List.append_nil]
    · refine ⟨[.request r reply], hstate.trans ?_, Nat.le_refl 1⟩
      rw [hrun]

/-- A page that does not go on leaves the client as it was. -/
theorem snd_drain_of_not_goesOn (h : last.goesOn = false) (c : RestClient) : (drain kind last c).2 = c := by
  cases hpartial : last.isPartial with
  | false => rw [drain_last hpartial]
  | true =>
    have hunlinked := next?_of_not_goesOn h hpartial
    have hn : Client.answer (.next kind last) c = (.ok none, c) := by
      show (RestClient.next kind last).run c = _
      unfold RestClient.next
      rw [hunlinked]
      rfl
    rw [drain_next_none hpartial hn]

/-- No exchange is made but for the pages that are asked for. -/
theorem events_drain (kind : Kind) (page : Page kind.Record) (c : RestClient) :
    ∃ es, (drain kind page c).2.events = c.events ++ es ∧ es.length ≤ pageRequests kind page c := by
  obtain ⟨⟨passed, last, c', h, hend⟩, hcollects, hfails⟩ := drainsExactly kind page c
  obtain ⟨es, hes, hlength⟩ := events_of_leads h
  rw [h.drain_eq]
  rcases hend with hlast | ⟨hlast, e, he⟩
  · have hcount := (hcollects passed last c' h hlast).2
    exact ⟨es, by rw [snd_drain_of_not_goesOn hlast, hes], by omega⟩
  · have hcount := (hfails passed last c' e h hlast he).2
    obtain ⟨es', hes', hone⟩ := events_next kind last c'
    refine ⟨es ++ es', ?_, by rw [List.length_append]; omega⟩
    rw [(drain_of_error hlast he []).1]
    exact hes'.trans (by rw [hes, List.append_assoc])

end RestClient

/-! ## Draining on both -/

namespace Client

/-- Draining is exact, whatever client it asks. A store is asked at most once more than it has pages that wait,
also where its pages lead in a circle, and a server at most once more than it has replies left. -/
theorem drain_exact :
    (∀ (σ : Type) [Client σ] [Linked σ] (kind : Kind) (page : Page kind.Record) (s : σ), DrainsExactly kind page s) ∧
      (∀ (kind : Kind) (page : Page kind.Record) (s : Store), pageRequests kind page s ≤ s.pages.size + 1) ∧
      ∀ (kind : Kind) (page : Page kind.Record) (c : RestClient),
        pageRequests kind page c ≤ c.server.replies.length + 1 ∧
        ∃ es, (drain kind page c).2.events = c.events ++ es ∧ es.length ≤ pageRequests kind page c :=
  ⟨fun _ => drainsExactly, fun kind page s => pageRequests_le kind page s,
    fun kind page c => ⟨pageRequests_le kind page c, RestClient.events_drain kind page c⟩⟩

/-- A store in which one page waits, and leads to itself. -/
def circling : Store :=
  { pages := Dict.empty.insert "fake://page/1" ⟨.cluster, [⟨"c-2", "dev"⟩], some "fake://page/1"⟩ }

/-- A page that leads into the circle. -/
def circlingFirst : Page Cluster := ⟨[⟨"c-1", "prod"⟩], some ⟨some "fake://page/1", true⟩⟩

/-- The page is handed out once; to ask for it again is a fault, and the end. -/
theorem drain_exact_circling :
    (drain .cluster circlingFirst circling).1 = .error (.transport "unknown page fake://page/1") ∧
      pageRequests .cluster circlingFirst circling = 2 ∧ circling.pages.size + 1 = 2 ∧
      (drain .cluster ⟨circlingFirst.records, some ⟨none, true⟩⟩ circling).1 = .ok [⟨"c-1", "prod"⟩] ∧
      pageRequests .cluster ⟨circlingFirst.records, some ⟨none, true⟩⟩ circling = 0 := by
  obtain ⟨hexact, -, -⟩ := drain_exact
  have hstep : answer (.next .cluster circlingFirst) circling =
      (.ok (some ⟨[⟨"c-2", "dev"⟩], some ⟨some "fake://page/1", true⟩⟩), { circling with pages := ∅ }) := by rfl
  obtain ⟨hfault, htwo⟩ := (hexact Store .cluster circlingFirst circling).fails _ _ _ _
    (.on (by decide) hstep (.here _ _)) (by decide) rfl
  obtain ⟨hrecords, hnone⟩ := (hexact Store .cluster ⟨circlingFirst.records, some ⟨none, true⟩⟩ circling).collects
    _ _ _ (.here _ _) (by decide)
  exact ⟨hfault, htwo, by decide, hrecords, hnone⟩

end Client

end MultiCluster
