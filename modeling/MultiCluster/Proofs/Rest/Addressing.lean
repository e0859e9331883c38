/-
Where requests go. Requests under one root go to places at one site, so of two requests with one method that are about
records with plain IDs, different records have different targets, and no target of such a record is that of a collection
(`target_injective`). An ID that is not plain is put into the URL as it is, and can name any other place
(`target_not_injective`).
-/
import MultiCluster.Proofs.Rest.Verdict
import MultiCluster.Proofs.Url.Reading
import MultiCluster.Rest.Message
namespace MultiCluster

/-! ## What a call asks for -/

namespace Call

/-- The kind whose collection a call is about, where it is about one. -/
def collection? : Call → Option Kind
  | .list kind _ => some kind
  | .create kind _ => some kind
  | _ => none

def method : Call → Rest.Method
  | .create .. => .post
  | .update .. => .put
  | .delete .. => .delete
  | .action .. => .post
  | _ => .get

def pairs : Call → Option (List (String × String))
  | .list _ filters => some filters.toList
  | .action _ _ name _ => some [("action", name)]
  | _ => none

end Call

namespace RestClient

open Url

/-- The one request that is noted between two states. -/
def noted? (c c' : RestClient) : Option Rest.Request :=
  match c'.events.drop c.events.length with
  | [.request r _] => some r
  | _ => none

/-- The request that a call sends, if it sends one. -/
def sent? (c : RestClient) (call : Call) : Option Rest.Request := c.noted? ((Client.answer call).run c).2

variable {c c' : RestClient} {call : Call} {kind : Kind} {id : String} {r : Rest.Request} {method : Rest.Method}
  {pairs : Option (List (String × String))} {body : Option Json}

/-- A request that is noted was prepared. -/
theorem prepare_of_noted {α : Type} {f : Body → Except Fault α} {result : Except Fault α} {missing : Option Fault}
    {address : RestClient → String}
    (hrun : (perform method address pairs body missing >>= fun b => Attempt.ofExcept (f b)).run c = (result, c'))
    (h : c.noted? c' = some r) : c.prepare method (address c) pairs body = .ok r := by
  rw [Attempt.run_bind_ofExcept] at hrun
  obtain ⟨-, rfl⟩ := Prod.mk.inj hrun
  unfold noted? at h
  rcases hprepare : c.prepare method (address c) pairs body with e | r'
  · rw [run_perform_of_error hprepare, List.drop_length] at h
    cases h
  · rw [run_perform_of_ok hprepare, List.drop_left] at h
    cases h
    rfl

theorem prepare_of_fetch {α : Type} {read : Json.Tree → Option α} {result : Except Fault α} {missing : Option Fault}
    {address : RestClient → String} (hrun : (fetch read method address pairs body missing).run c = (result, c'))
    (h : c.noted? c' = some r) : c.prepare method (address c) pairs body = .ok r := prepare_of_noted hrun h

theorem prepare_of_perform {result : Except Fault Unit} {missing : Option Fault} {address : RestClient → String}
    (hrun : (perform method address pairs body missing >>= fun _ => pure ()).run c = (result, c'))
    (h : c.noted? c' = some r) : c.prepare method (address c) pairs body = .ok r :=
  prepare_of_noted (f := fun _ => .ok ()) hrun h

theorem prepare_of_record (hsubject : call.subject? = some (kind, id)) (h : c.sent? call = some r) :
    ∃ body, c.prepare call.method (c.recordUrl kind id) call.pairs body = .ok r := by
  rcases hrun : (RestClient.answer call).run c with ⟨result, c'⟩
  have hnoted : c.noted? c' = some r := h ▸ congrArg (c.noted? ·.2) hrun.symm
  cases call <;> cases hsubject <;> dsimp only [RestClient.answer] at hrun
  case delete =>
    have hprepare := prepare_of_perform hrun hnoted
    exact ⟨_, hprepare⟩
  case action =>
    have hprepare := prepare_of_perform hrun hnoted
    exact ⟨_, hprepare⟩
  all_goals
    have hprepare := prepare_of_fetch hrun hnoted
    exact ⟨_, hprepare⟩

theorem prepare_of_collection (hcollection : call.collection? = some kind) (h : c.sent? call = some r) :
    ∃ body, c.prepare call.method (c.collectionUrl kind) call.pairs body = .ok r := by
  rcases hrun : (RestClient.answer call).run c with ⟨result, c'⟩
  have hnoted : c.noted? c' = some r := h ▸ congrArg (c.noted? ·.2) hrun.symm
  cases call <;> cases hcollection <;> dsimp only [RestClient.answer] at hrun
  all_goals
    have hprepare := prepare_of_fetch hrun hnoted
    exact ⟨_, hprepare⟩

/-- A request that could be prepared asks for what its address names, with the pairs. -/
theorem target_of_prepare {address : String} (h : c.prepare method address pairs body = .ok r) :
    r.method = method ∧ ∃ u, Url.parse? address = some u ∧ IsHttp u.scheme ∧
      r.target = String.ofList (asked (withPairs? pairs u)) := by
  refine ⟨(prepare_eq_ok h).1, ?_⟩
  unfold prepare at h
  split at h
  · cases h
  · rename_i u hparse
    split at h
    · cases h
    · split at h
      · cases h
      · have hurl : ∀ v, v = u ∨ v = u.withoutUser →
            asked (withPairs? pairs v) = asked (withPairs? pairs u) ∧ (withPairs? pairs v).scheme = u.scheme := by
          rintro _ (rfl | rfl) <;> cases pairs <;> exact ⟨rfl, rfl⟩
        change (if isUsable (withPairs? pairs (if (credentials? u).isSome = true then u.withoutUser else u)) = true
          then _ else _) = _ at h
        -- a name in the address is taken out of the URL, but not out of what is asked for
        generalize hsent : (if (credentials? u).isSome = true then u.withoutUser else u) = v at h
        obtain ⟨hasked, hscheme⟩ := hurl v (by rw [← hsent]; split <;> simp)
        split at h
        · rename_i husable
          cases h
          refine ⟨u, hparse, ?_, congrArg String.ofList hasked⟩
          have hhttp := (Bool.and_eq_true_iff.1 (Bool.and_eq_true_iff.1 husable).1).1
          rw [hscheme] at hhttp
          simpa [IsHttp] using hhttp
        · cases h

theorem exists_apiRoot {server : String} (h : '#' ∉ server.toList) :
    ∃ root, (apiRoot server).toList = root ++ "/v3".toList ∧ '#' ∉ root := by
  have hbase : '#' ∉ (server.toList.reverse.dropWhile (· == '/')).reverse := fun hmem =>
    h (List.mem_reverse.1 ((List.dropWhile_suffix _).mem (List.mem_reverse.1 hmem)))
  unfold apiRoot
  dsimp only
  rw [String.toList_ofList]
  split
  · rename_i hsuffix
    obtain ⟨root, hroot⟩ := Option.isSome_iff_exists.1 hsuffix
    have hsplit := Text.dropSuffix?_eq_some_iff.1 hroot
    refine ⟨root, hsplit, fun hmem => hbase ?_⟩
    rw [hsplit]
    exact List.mem_append_left _ hmem
  · exact ⟨_, rfl, hbase⟩

/-! ## Places of records and collections -/

theorem isSegment_collection (kind : Kind) : IsSegment kind.collection.toList := by
  cases kind <;> decide

theorem collection_injective {kind kind' : Kind} (h : kind.collection.toList = kind'.collection.toList) :
    kind = kind' := by
  cases kind <;> cases kind' <;> first | rfl | exact absurd h (by decide)

theorem slash_not_mem {s : List Char} (hs : IsSegment s) (keep : Char → Bool) : '/' ∉ percentText keep s := fun h => by
  rcases mem_percentText h with h | h | h
  · exact hs.not_mem (by decide) h
  · exact absurd h (by decide)
  · exact absurd h (by decide)

theorem slash_not_mem_pairs (site : Site) (pairs : Option (List (String × String))) :
    '/' ∉ pairsBehind site.mark pairs := by
  match pairs with
  | none => nofun
  | some [] => nofun
  | some (p :: ps) =>
    intro h
    rcases List.mem_cons.1 h with h | h
    · exact site.mark_ne_slash h.symm
    · exact absurd (mem_formPairs h) (by decide)

/-- What is asked for of the record with an ID. -/
def recordTarget (site : Site) (kind : Kind) (id : String) (pairs : Option (List (String × String))) : List Char :=
  site.front ++ under ([kind.collection.toList, id.toList].map (percentText site.keep)) ++ pairsBehind site.mark pairs

/-- What is asked for of a collection. -/
def collectionTarget (site : Site) (kind : Kind) (pairs : Option (List (String × String))) : List Char :=
  site.front ++ under ([kind.collection.toList].map (percentText site.keep)) ++ pairsBehind site.mark pairs

variable {kind' : Kind} {id' : String} {pairs' : Option (List (String × String))}

/-- What is asked for of a record tells the record, where there are no pairs, or one. -/
theorem eq_of_recordTarget {site : Site} (hid : IsSegment id.toList) (hid' : IsSegment id'.toList)
    (hpairs : pairs = none ∧ pairs' = none ∨ ∃ p p', pairs = some [p] ∧ pairs' = some [p'])
    (h : recordTarget site kind id pairs = recordTarget site kind' id' pairs') : kind = kind' ∧ id = id' := by
  have hcollection := isSegment_collection kind
  have hcollection' := isSegment_collection kind'
  have hinjective : ∀ {s t : List Char}, IsSegment s → IsSegment t →
      percentText site.keep s = percentText site.keep t → s = t := fun hs ht =>
    percentText_injective site.printable (hs.not_mem (by decide)) (ht.not_mem (by decide))
  simp only [recordTarget, List.append_assoc, List.map_cons, List.map_nil, under_cons, under_nil, List.cons_append,
    List.append_cancel_left_eq, List.cons.injEq, true_and] at h
  obtain ⟨hkind, h⟩ := Text.eq_of_append_cons (slash_not_mem hcollection _) (slash_not_mem hcollection' _) h
  refine ⟨collection_injective (hinjective hcollection hcollection' hkind),
    String.toList_inj.1 (hinjective hid hid' ?_)⟩
  rcases hpairs with ⟨rfl, rfl⟩ | ⟨p, p', rfl, rfl⟩
  · simpa [pairsBehind] using h
  · exact (Text.eq_of_append_cons_last (site.mark_not_mem p.1 p.2) (site.mark_not_mem p'.1 p'.2) h).1

/-- A record is not asked for as a collection is. -/
theorem recordTarget_ne_collectionTarget (site : Site) (kind kind' : Kind) (id : String)
    (pairs pairs' : Option (List (String × String))) :
    recordTarget site kind id pairs ≠ collectionTarget site kind' pairs' := fun h => by
  simp only [recordTarget, collectionTarget, List.append_assoc, List.map_cons, List.map_nil, under_cons, under_nil,
    List.cons_append, List.append_cancel_left_eq, List.cons.injEq, true_and, List.nil_append] at h
  have hslash : '/' ∈ percentText site.keep kind'.collection.toList ++ pairsBehind site.mark pairs' := by
    rw [← h]
    exact List.mem_append_right _ (List.mem_cons_self ..)
  rcases List.mem_append.1 hslash with hslash | hslash
  · exact slash_not_mem (isSegment_collection kind') _ hslash
  · exact slash_not_mem_pairs site pairs' hslash

/-- The site that the requests of a client go to. -/
def site? (c : RestClient) : Option Site := (Text.dropSuffix? "/v3".toList c.root.toList).bind rootSite?

variable {server : String} (hserver : '#' ∉ server.toList) (hroot : c.root = apiRoot server)
include hserver hroot

theorem target_of_under {l : List (List Char)} (hl : l ≠ []) (hsegments : ∀ s ∈ l, IsSegment s) {address : String}
    (haddress : address.toList = c.root.toList ++ under l) (h : c.prepare method address pairs body = .ok r) :
    ∃ site, c.site? = some site ∧ r.method = method ∧
      r.target = String.ofList
        (site.front ++ under (l.map (percentText site.keep)) ++ pairsBehind site.mark pairs) := by
  obtain ⟨root, hsplit, hhash⟩ := exists_apiRoot hserver
  rw [← hroot] at hsplit
  obtain ⟨hmethod, u, hu, hhttp, htarget⟩ := target_of_prepare h
  obtain ⟨site, hsite, hasked⟩ := asked_under hhash hl hsegments (hsplit ▸ haddress) hu hhttp pairs
  exact ⟨site, by rw [site?, Text.dropSuffix?_eq_some_iff.2 hsplit]; exact hsite, hmethod, by rw [htarget, hasked]⟩

theorem target_of_record (hsubject : call.subject? = some (kind, id)) (hid : IsSegment id.toList)
    (h : c.sent? call = some r) :
    ∃ site, c.site? = some site ∧ r.method = call.method ∧
      r.target = String.ofList (recordTarget site kind id call.pairs) := by
  obtain ⟨body, hprepare⟩ := prepare_of_record hsubject h
  exact target_of_under hserver hroot (List.cons_ne_nil _ _)
    (List.forall_mem_cons.2 ⟨isSegment_collection kind, List.forall_mem_singleton.2 hid⟩)
    (by simp [recordUrl, under]) hprepare

theorem target_of_collection (hcollection : call.collection? = some kind) (h : c.sent? call = some r) :
    ∃ site, c.site? = some site ∧ r.target = String.ofList (collectionTarget site kind call.pairs) := by
  obtain ⟨body, hprepare⟩ := prepare_of_collection hcollection h
  obtain ⟨site, hsite, -, htarget⟩ := target_of_under hserver hroot (List.cons_ne_nil _ _)
    (List.forall_mem_singleton.2 (isSegment_collection kind)) (by simp [collectionUrl, under]) hprepare
  exact ⟨site, hsite, htarget⟩

omit hserver hroot

/-- A request about a record has no pairs, but for an action, which has one. -/
theorem pairs_of_record (h : call.subject? = some (kind, id)) :
    call.method ≠ .post ∧ call.pairs = none ∨ call.method = .post ∧ ∃ p, call.pairs = some [p] := by
  cases call with
  | byId | update | delete => exact .inl ⟨nofun, rfl⟩
  | action _ _ name => exact .inr ⟨rfl, _, rfl⟩
  | list | next | create | link | sleep => cases h

/-- Two requests with one method and one target that are about records with IDs that are segments are about the same
record, and no request about a collection has such a target. -/
theorem target_injective {server : String} (hserver : '#' ∉ server.toList) {c c' : RestClient}
    (hc : c.root = apiRoot server) (hc' : c'.root = apiRoot server) {call : Call} {kind : Kind} {id : String}
    {r : Rest.Request} (hsubject : call.subject? = some (kind, id)) (hid : IsSegment id.toList)
    (hsent : c.sent? call = some r) :
    (∀ call' kind' id' r', Call.subject? call' = some (kind', id') → IsSegment id'.toList → c'.sent? call' = some r' →
      r.method = r'.method → r.target = r'.target → kind = kind' ∧ id = id') ∧
    ∀ call' kind' r', Call.collection? call' = some kind' → c'.sent? call' = some r' → r.target ≠ r'.target := by
  have hsites : c.site? = c'.site? := by rw [site?, site?, hc, hc']
  obtain ⟨site, hsite, hmethod, htarget⟩ := target_of_record hserver hc hsubject hid hsent
  refine ⟨fun call' kind' id' r' hsubject' hid' hsent' hmethods htargets => ?_,
    fun call' kind' r' hcollection hsent' htargets => ?_⟩
  · obtain ⟨site', hsite', hmethod', htarget'⟩ := target_of_record hserver hc' hsubject' hid' hsent'
    obtain rfl : site = site' := Option.some.inj (hsite.symm.trans (hsites.trans hsite'))
    have hsame : call.method = call'.method := hmethod.symm.trans (hmethods.trans hmethod')
    refine eq_of_recordTarget hid hid' ?_ (String.ofList_injective (htarget.symm.trans (htargets.trans htarget')))
    rcases pairs_of_record hsubject with ⟨hget, hnone⟩ | ⟨hpost, hone⟩
    · rcases pairs_of_record hsubject' with ⟨-, hnone'⟩ | ⟨hpost', -⟩
      · exact .inl ⟨hnone, hnone'⟩
      · exact absurd (hsame.trans hpost') hget
    · rcases pairs_of_record hsubject' with ⟨hget', -⟩ | ⟨-, hone'⟩
      · exact absurd (hsame.symm.trans hpost) hget'
      · obtain ⟨p, hp⟩ := hone
        obtain ⟨p', hp'⟩ := hone'
        exact .inr ⟨p, p', hp, hp'⟩
  · obtain ⟨site', hsite', htarget'⟩ := target_of_collection hserver hc' hcollection hsent'
    obtain rfl : site = site' := Option.some.inj (hsite.symm.trans (hsites.trans hsite'))
    exact recordTarget_ne_collectionTarget site kind kind' id call.pairs call'.pairs
      (String.ofList_injective (htarget.symm.trans (htargets.trans htarget')))

/-- A client for a server at a short address. -/
def near : RestClient := connect "http://h" none reticent.server

/-- To delete a project is to ask for something else than to delete a cluster, or to list the clusters. -/
theorem target_injective_delete :
    ∃ r r' r'', near.sent? (.delete .cluster ⟨"c-1", "prod"⟩) = some r ∧
      near.sent? (.delete .project ⟨"c-1:p-1", "web", "c-1"⟩) = some r' ∧ near.sent? (.list .cluster ∅) = some r'' ∧
      r.target ≠ r'.target ∧ r.target ≠ r''.target := by
  have hmethods : (near.sent? (.delete .cluster ⟨"c-1", "prod"⟩)).map (·.method) = some .delete ∧
      (near.sent? (.delete .project ⟨"c-1:p-1", "web", "c-1"⟩)).map (·.method) = some .delete ∧
      (near.sent? (.list .cluster ∅)).isSome = true := by decide +kernel
  obtain ⟨hcluster, hproject, hlist⟩ := hmethods
  obtain ⟨r, hr, hdelete⟩ := Option.map_eq_some_iff.1 hcluster
  obtain ⟨r', hr', hdelete'⟩ := Option.map_eq_some_iff.1 hproject
  obtain ⟨r'', hr''⟩ := Option.isSome_iff_exists.1 hlist
  have hnear : near.root = apiRoot "http://h" := rfl
  obtain ⟨hrecords, hcollections⟩ := target_injective (by decide) hnear hnear
    (rfl : Call.subject? (.delete .cluster ⟨"c-1", "prod"⟩) = some (.cluster, "c-1")) (by decide) hr
  refine ⟨r, r', r'', hr, hr', hr'', fun htarget => ?_, hcollections _ .cluster r'' rfl hr''⟩
  obtain ⟨hkind, -⟩ := hrecords _ .project "c-1:p-1" r' rfl (by decide) hr' (hdelete.trans hdelete'.symm) htarget
  cases hkind

/-- The path and the query that a call asks for. -/
def targetOf? (c : RestClient) (call : Call) : Option String := (c.sent? call).map (·.target)

/-- An ID that is no segment is followed as a path: to another record, to a collection, and to a record of another kind,
also where something is to be deleted. Behind a number sign in the address of the server nothing is asked for. -/
theorem target_not_injective :
    (near.targetOf? (.byId .cluster "y") = some "/v3/clusters/y" ∧
        near.targetOf? (.byId .cluster "x/../y") = some "/v3/clusters/y") ∧
      (near.targetOf? (.byId .cluster "../clusters") = some "/v3/clusters" ∧
        near.targetOf? (.list .cluster ∅) = some "/v3/clusters") ∧
      (near.targetOf? (.byId .cluster "../projects/p-1") = some "/v3/projects/p-1" ∧
        near.targetOf? (.byId .project "p-1") = some "/v3/projects/p-1") ∧
      (near.targetOf? (.delete .cluster ⟨"y", "prod"⟩) = some "/v3/clusters/y" ∧
        near.targetOf? (.delete .cluster ⟨"x/../y", "dev"⟩) = some "/v3/clusters/y") ∧
      (connect "http://h#x" none reticent.server).targetOf? (.byId .cluster "y") = some "/" ∧
        (connect "http://h#x" none reticent.server).targetOf? (.byId .cluster "z") = some "/" := by
  decide +kernel

end RestClient

end MultiCluster
