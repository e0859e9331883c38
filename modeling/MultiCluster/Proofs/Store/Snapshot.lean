/-
What a listing gives while other work goes on. The pages that wait behind its first one lie under numbers
of their own, and no page outside those numbers leads to one of them, so nobody else comes by them
(`Chained`). One move either takes the next page of the chain or leaves the chain alone (`Chained.step`),
and so by induction on the moves a listing gives what was stored when it was started, page by page,
whatever happens in between (`listing_snapshot`).
-/
import MultiCluster.Proofs.Store.Traffic
import Mathlib
namespace MultiCluster

/-! ## The pages of a chain -/

namespace Store

variable {kind : Kind}

/-- The page of a piece that the pieces `r` follow, which are numbered from `c + 1` on. -/
def pageOf (c : Nat) (p : List kind.Record) (r : List (List kind.Record)) : Page kind.Record :=
  ⟨p, some ⟨firstUrl c r, (firstUrl c r).isSome⟩⟩

/-- The pages of pieces that are numbered from `c + 1` on, the last one first. -/
def pagesFrom (c : Nat) : List (List kind.Record) → List (Page kind.Record)
  | [] => []
  | p :: r => pageOf c p r :: pagesFrom c r

theorem drop_pagesFrom (c n : Nat) (r : List (List kind.Record)) : pagesFrom c (r.drop n) = (pagesFrom c r).drop n := by
  induction n generalizing r with
  | zero => rfl
  | succ n ih => cases r <;> simp [pagesFrom, ih]

theorem records_pagesFrom (c : Nat) (r : List (List kind.Record)) : (pagesFrom c r).map Page.records = r := by
  induction r with
  | nil => rfl
  | cons p r ih => rw [pagesFrom, List.map_cons, ih]; rfl

section Ends

variable {c : Nat} {r : List (List kind.Record)} {page : Page kind.Record}

/-- Every page of a chain but the last one says that there are more. -/
theorem partial_of_mem_dropLast (hu : page.next? = firstUrl c r) (hp : page.isPartial = (firstUrl c r).isSome)
    {q : Page kind.Record} (hq : q ∈ (page :: pagesFrom c r).dropLast) :
    q.isPartial = true ∧ q.next?.isSome = true ∧ q.records ∈ (page.records :: r).dropLast := by
  induction r generalizing page with
  | nil => cases hq
  | cons p r ih =>
    rw [pagesFrom, List.dropLast_cons_cons] at hq
    rw [List.dropLast_cons_cons]
    rcases List.mem_cons.1 hq with rfl | hq
    · exact ⟨hp, by rw [hu]; rfl, List.mem_cons_self ..⟩
    · have hu' : (pageOf c p r).next? = firstUrl c r := rfl
      obtain ⟨hpartial, hnext, hmem⟩ := ih hu' rfl hq
      exact ⟨hpartial, hnext, List.mem_cons_of_mem _ hmem⟩

/-- The last one says that there are none. -/
theorem exists_getLast?_pages (hu : page.next? = firstUrl c r) (hp : page.isPartial = (firstUrl c r).isSome) :
    ∃ q, (page :: pagesFrom c r).getLast? = some q ∧ q.isPartial = false ∧ q.next? = none ∧
      q.records ∈ page.records :: r := by
  induction r generalizing page with
  | nil => exact ⟨page, rfl, hp, hu, List.mem_cons_self ..⟩
  | cons p r ih =>
    have hu' : (pageOf c p r).next? = firstUrl c r := rfl
    obtain ⟨q, hq, hpartial, hnext, hmem⟩ := ih hu' rfl
    exact ⟨q, by rw [pagesFrom, List.getLast?_cons_cons]; exact hq, hpartial, hnext, List.mem_cons_of_mem _ hmem⟩

end Ends

end Store

/-! ## What a move leaves alone -/

namespace Store

variable {s t u : Store} {low high : Nat}

/-- The URL is that of a page whose number is above `low` and at most `high`. -/
def Between (low high : Nat) (url : String) : Prop := ∃ n, url = pageUrl n ∧ low < n ∧ n ≤ high

/-- From `s` to `t` the pages of these numbers stay where they are, and no page comes in that leads to
one of them. -/
structure Leaves (low high : Nat) (s t : Store) : Prop where
  pageCount : s.pageCount ≤ t.pageCount
  waiting : ∀ url, Between low high url → t.pages.get? url = s.pages.get? url
  links : ∀ url p, t.pages.get? url = some p → s.pages.get? url = some p ∨
    ∀ url', p.next = some url' → ¬ Between low high url'

theorem Leaves.of_pages (hp : t.pages = s.pages) (hc : s.pageCount ≤ t.pageCount) : Leaves low high s t :=
  ⟨hc, fun _ _ => by rw [hp], fun _ _ h => .inl (hp ▸ h)⟩

/-- Filing uses numbers that were not given out. -/
theorem leaves_file (hhigh : high ≤ s.pageCount) (kind : Kind) (r : List (List kind.Record)) :
    Leaves low high s (file kind r s).2 := by
  refine ⟨by rw [pageCount_file]; omega, ?_, ?_⟩
  · rintro url ⟨n, rfl, -, hn⟩
    rcases get?_pages_file kind r s (pageUrl n) with hsame | ⟨m, p, hm, hlow, -⟩
    · exact hsame
    · have := pageUrl_injective hm
      omega
  · intro url p hp
    rcases get?_pages_file kind r s url with hsame | ⟨m, p', -, -, -, hp', hnext⟩
    · exact .inl (hsame ▸ hp)
    · rw [hp'] at hp
      cases hp
      refine .inr fun url' hurl => ?_
      rintro ⟨n, rfl, -, hn⟩
      have := (hnext n hurl).1
      omega

/-- Asking for a page of another number leaves these alone. -/
theorem leaves_next {kind : Kind} {page : Page kind.Record}
    (h : ∀ url, page.next? = some url → ¬ Between low high url) : Leaves low high s (s.next kind page).2 := by
  rcases snd_next kind page s with hsame | ⟨url, hu, herase⟩
  · rw [hsame]
    exact .of_pages rfl (Nat.le_refl _)
  · rw [herase]
    refine ⟨Nat.le_refl _, fun url' hbetween => ?_, fun url' p hp => .inl ?_⟩
    · rw [Dict.get?_erase, if_neg (by rintro rfl; exact h url hu hbetween)]
    · rw [Dict.get?_erase] at hp
      split at hp
      · cases hp
      · exact hp

theorem leaves_list (hhigh : high ≤ s.pageCount) (kind : Kind) (filters : Dict String) :
    Leaves low high s (s.list kind filters).2 := by
  obtain ⟨p, r, hlist, -⟩ := list_spec kind filters s
  rw [hlist]
  exact leaves_file hhigh kind r

end Store

namespace Move

/-- The move asks for none of the pages with these numbers, unless it goes on with a listing. -/
def Spares (low high : Nat) : Move → Prop
  | .called (.next _ page) => ∀ url, page.next? = some url → ¬ Store.Between low high url
  | _ => True

end Move

/-! ## The chain of one listing -/

namespace Traffic

variable {t : Traffic}

/-- The listing with number `i` has given some pages; those of the pieces that are left wait, and are not
led to from elsewhere. -/
structure Chained (low high i : Nat) {kind : Kind} (given : List (Page kind.Record)) (left : List (List kind.Record))
    (t : Traffic) : Prop where
  listing : t.listings[i]? = some ⟨kind, given⟩
  next? : (Listing.last ⟨kind, given⟩).next? = Store.firstUrl low left
  filed : Store.Filed kind t.store.pages low left
  left_le : low + left.length ≤ high
  high_le : high ≤ t.store.pageCount
  stored : ∀ url p, t.store.pages.get? url = some p → ¬ Store.Between low high url →
    ∀ url', p.next = some url' → ¬ Store.Between low high url'
  others : ∀ j l, j ≠ i → t.listings[j]? = some l → ∀ url, l.last.next? = some url → ¬ Store.Between low high url

section Chained

variable {low high i : Nat} {kind : Kind} {given : List (Page kind.Record)} {left : List (List kind.Record)}

/-- The chain does not notice what leaves its pages alone. -/
theorem Chained.of_leaves (h : Chained low high i given left t) {s : Store} (hs : Store.Leaves low high t.store s)
    {listings : List Listing} (hi : listings[i]? = some ⟨kind, given⟩)
    (hothers : ∀ j l, j ≠ i → listings[j]? = some l → ∀ url, l.last.next? = some url → ¬ Store.Between low high url) :
    Chained low high i given left ⟨s, listings⟩ where
  listing := hi
  next? := h.next?
  filed := h.filed.congr fun n hlow hn => hs.waiting _ ⟨n, rfl, hlow, Nat.le_trans hn h.left_le⟩
  left_le := h.left_le
  high_le := Nat.le_trans h.high_le hs.pageCount
  stored := fun url p hp hurl url' hnext => by
    rcases hs.links url p hp with hp' | hlinks
    · exact h.stored url p hp' hurl url' hnext
    · exact hlinks url' hnext
  others := hothers

/-- Asking for the next page of the listing gives the next piece, as long as there is one. -/
theorem Chained.advance (h : Chained low high i given left t) :
    Chained low high i (given ++ (Store.pagesFrom low left).take 1) (left.drop 1) (t.step (.advance i)) := by
  obtain ⟨hlen, -⟩ := List.getElem?_eq_some_iff.1 h.listing
  have hstep : t.step (.advance i) = ⟨((⟨kind, given⟩ : Listing).advance t.store).2,
      t.listings.set i ((⟨kind, given⟩ : Listing).advance t.store).1⟩ := by
    simp only [Traffic.step, h.listing]
  have hothers : ∀ (l' : Listing) j l, j ≠ i → (t.listings.set i l')[j]? = some l → ∀ url, l.last.next? = some url →
      ¬ Store.Between low high url := fun l' j l hj hl => by
    rw [List.getElem?_set_ne (Ne.symm hj)] at hl
    exact h.others j l hj hl
  rw [hstep]
  match left, h with
  | [], h =>
    have hnone : (⟨kind, given⟩ : Listing).advance t.store = (⟨kind, given⟩, t.store) := by
      have : t.store.next kind (Listing.last ⟨kind, given⟩) = (.ok none, t.store) := by
        simp only [Store.next, h.next?]
        rfl
      simp only [Listing.advance, this]
    rw [hnone]
    simp only [Store.pagesFrom, List.take_nil, List.append_nil, List.drop_nil]
    exact h.of_leaves (.of_pages rfl (Nat.le_refl _)) (by simp [hlen]) (hothers _)
  | p :: r, h =>
    have hnext := Store.next_of_waiting h.next? h.filed.1
    have hgiven : (⟨kind, given⟩ : Listing).advance t.store = (⟨kind, given ++ [Store.pageOf low p r]⟩,
        { t.store with pages := t.store.pages.erase (Store.pageUrl (low + r.length + 1)) }) := by
      simp only [Listing.advance, hnext]
      rfl
    rw [hgiven]
    have hleft : low + r.length ≤ high := by
      have := h.left_le
      rw [List.length_cons] at this
      omega
    refine ⟨by simp [hlen, Store.pagesFrom], ?_, ?_, hleft, h.high_le, ?_, hothers _⟩
    · show (Listing.last ⟨kind, given ++ [Store.pageOf low p r]⟩).next? = _
      rw [last_append]
      rfl
    · refine h.filed.2.congr fun n _ hn => ?_
      rw [Dict.get?_erase, if_neg (Store.pageUrl_ne (by omega))]
    · intro url q hq
      change (t.store.pages.erase _).get? url = some q at hq
      rw [Dict.get?_erase] at hq
      split at hq
      · cases hq
      · exact h.stored url q hq

/-- Another listing goes on beside it. -/
theorem Chained.advance_other (h : Chained low high i given left t) {j : Nat} (hj : j ≠ i) :
    Chained low high i given left (t.step (.advance j)) := by
  unfold Traffic.step
  dsimp only
  split
  · exact h
  · rename_i l hl
    obtain ⟨hstore, hpages⟩ := advance_cases l t.store
    have hlast := h.others j l hj hl
    rw [hstore]
    refine h.of_leaves (Store.leaves_next hlast) ?_ fun k l' hk hl' => ?_
    · rw [List.getElem?_set_ne hj]
      exact h.listing
    · rw [List.getElem?_set] at hl'
      split at hl'
      · rename_i hjk
        split at hl'
        · obtain rfl := Option.some.inj hl'
          rcases hpages with hsame | ⟨p, url, q, hadd, hurl, hq, hnext⟩
          · rw [hsame]
            exact hlast
          · -- a page that lies elsewhere leads elsewhere
            rw [hadd, last_append, hnext]
            exact h.stored url q hq (hlast url hurl)
        · cases hl'
      · exact h.others k l' hk hl'

/-- Any other move that spares its pages leaves the chain as it is. -/
theorem Chained.step_other (h : Chained low high i given left t) (ht : t.Sound) {m : Move} (hm : m.Spares low high)
    (hne : ∀ j, m ≠ .advance j) : Chained low high i given left (t.step m) := by
  have hstay : ∀ {s : Store}, Store.Leaves low high t.store s → Chained low high i given left ⟨s, t.listings⟩ :=
    fun hs => h.of_leaves hs h.listing h.others
  cases m with
  | start kind' filters =>
    obtain ⟨hlen, -⟩ := List.getElem?_eq_some_iff.1 h.listing
    refine h.of_leaves (Store.leaves_list h.high_le kind' filters) ?_ fun j l hj hl url hurl => ?_
    · rw [List.getElem?_append_left hlen]
      exact h.listing
    · rcases Nat.lt_trichotomy j t.listings.length with hlt | rfl | hgt
      · rw [List.getElem?_append_left hlt] at hl
        exact h.others j l hj hl url hurl
      · -- the new listing leads to a number that is higher than those of the chain
        rw [List.getElem?_concat_length] at hl
        cases hl
        have hnew : (t.store.list kind' filters).1.next? = some url := hurl
        obtain ⟨n, rfl, hlow, -⟩ := Store.next?_list hnew
        rintro ⟨m, hm, -, hmhigh⟩
        have := Store.pageUrl_injective hm
        have := h.high_le
        omega
      · rw [List.getElem?_eq_none (by rw [List.length_append, List.length_singleton]; omega)] at hl
        cases hl
  | advance j => exact absurd rfl (hne j)
  | paged | inserted | scripted | linked => exact hstay (.of_pages rfl (Nat.le_refl _))
  | called c =>
    refine hstay ?_
    have hother : ¬ c.IsPaging → Store.Leaves low high t.store ((Client.answer c).run t.store).2 := fun hc =>
      .of_pages (Store.pages_answer hc t.store).1 (Nat.le_of_eq (Store.pages_answer hc t.store).2.symm)
    cases c with
    | list kind' filters => exact Store.leaves_list h.high_le kind' filters
    | next kind' page => exact Store.leaves_next hm
    | byId | create | update | delete | action | link | sleep => exact hother not_false
  | lookup kind' reference filters =>
    obtain ⟨hp, hc⟩ := Store.pages_lookup ht.fresh kind' reference filters
    exact hstay (.of_pages hp hc)

theorem Chained.step (h : Chained low high i given left t) (ht : t.Sound) {m : Move} (hm : m.Spares low high) :
    Chained low high i (given ++ (Store.pagesFrom low left).take ([m].countP (Move.isAdvance i)))
      (left.drop ([m].countP (Move.isAdvance i))) (t.step m) := by
  by_cases hi : m = .advance i
  · subst hi
    simpa [Move.isAdvance] using h.advance
  · have hcount : [m].countP (Move.isAdvance i) = 0 := by
      cases m with
      | advance j =>
        have hj : j ≠ i := fun he => hi (he ▸ rfl)
        simp [Move.isAdvance, hj]
      | _ => rfl
    rw [hcount, List.take_zero, List.append_nil, List.drop_zero]
    by_cases hj : ∃ j, m = .advance j
    · obtain ⟨j, rfl⟩ := hj
      exact h.advance_other fun he => hi (he ▸ rfl)
    · exact h.step_other ht hm fun j he => hj ⟨j, he⟩

/-- Among any moves that spare its pages the chain goes on as often as it is asked to. -/
theorem Chained.run (h : Chained low high i given left t) (ht : t.Sound) {moves : List Move}
    (hm : ∀ m ∈ moves, m.Spares low high) :
    Chained low high i (given ++ (Store.pagesFrom low left).take (moves.countP (Move.isAdvance i)))
      (left.drop (moves.countP (Move.isAdvance i))) (t.run moves) := by
  induction moves generalizing t given left with
  | nil => simpa using h
  | cons m moves ih =>
    obtain ⟨hfirst, hrest⟩ := List.forall_mem_cons.1 hm
    have hrun := ih (h.step ht hfirst) (ht.step m) hrest
    have hcount : (m :: moves).countP (Move.isAdvance i) =
        [m].countP (Move.isAdvance i) + moves.countP (Move.isAdvance i) := by
      rw [← List.countP_append]
      rfl
    rw [hcount, List.take_add, ← List.append_assoc, ← Store.drop_pagesFrom, ← List.drop_drop]
    exact hrun

end Chained

/-! ## Snapshots -/

/-- The pages hold just the records of the kind that the store has and that pass the filters, in the order
of their IDs. All of them are full and go on but the last one, which does not. -/
structure Snapshot (s : Store) (kind : Kind) (filters : Dict String) (pages : List (Page kind.Record)) : Prop where
  stored : ∀ r, r ∈ pages.flatMap Page.records ↔
    s.get? kind (kind.id r) = some r ∧ kind.matchesAll filters r = true
  ascending : ((pages.flatMap Page.records).map kind.id).Pairwise (· < ·)
  full : ∀ p ∈ pages.dropLast, s.pageSize = some p.records.length ∧ p.records ≠ [] ∧ p.isPartial = true ∧
    p.next?.isSome = true
  last : ∃ p, pages.getLast? = some p ∧ p.isPartial = false ∧ p.next? = none ∧
    ∀ n, s.pageSize = some (n + 1) → p.records.length ≤ n + 1

/-- A listing that is started has its first page, and the others wait for it alone. -/
theorem Sound.start (ht : t.Sound) (kind : Kind) (filters : Dict String) :
    ∃ left, Snapshot t.store kind filters ((t.store.list kind filters).1 :: Store.pagesFrom t.store.pageCount left) ∧
      Chained t.store.pageCount (t.store.list kind filters).2.pageCount t.listings.length
        [(t.store.list kind filters).1] left (t.step (.start kind filters)) := by
  obtain ⟨p, r, hlist, hflat, hfull, hle⟩ := Store.list_spec kind filters t.store
  have hu := Store.next?_firstPage t.store.pageCount p r
  have hp := Store.isPartial_firstPage t.store.pageCount p r
  refine ⟨r, ?_, ?_⟩
  · rw [hlist]
    have hrecords :
        (Store.firstPage t.store.pageCount p r :: Store.pagesFrom t.store.pageCount r).flatMap Page.records =
        t.store.found kind filters := by
      rw [List.flatMap_cons, List.flatMap_def, Store.records_pagesFrom]
      exact hflat
    constructor
    case stored => exact fun r' => by rw [hrecords]; exact Store.mem_found ht.keyed
    case ascending =>
      rw [hrecords]
      exact Store.ascending_found ht.keyed
    case full =>
      intro q hq
      obtain ⟨hpartial, hnext, hmem⟩ := Store.partial_of_mem_dropLast hu hp hq
      obtain ⟨hsize, hne⟩ := hfull _ hmem
      exact ⟨hsize, hne, hpartial, hnext⟩
    case last =>
      obtain ⟨q, hq, hpartial, hnext, hmem⟩ := Store.exists_getLast?_pages hu hp
      exact ⟨q, hq, hpartial, hnext, fun n hn => hle n hn _ hmem⟩
  · have hcount := Store.pageCount_file kind r t.store
    obtain ⟨-, -, -, hfiled⟩ := Store.file_spec kind r t.store
    have hstep : t.step (.start kind filters) =
        ⟨(Store.file kind r t.store).2, t.listings ++ [⟨kind, [Store.firstPage t.store.pageCount p r]⟩]⟩ := by
      simp only [Traffic.step, hlist]
    rw [hstep, hlist]
    refine ⟨List.getElem?_concat_length .., hu, hfiled, Nat.le_of_eq hcount.symm, Nat.le_refl _, ?_, ?_⟩
    · intro url q hq hurl url' hnext
      rintro ⟨n, rfl, hlow, -⟩
      rcases Store.get?_pages_file kind r t.store url with hsame | ⟨m, -, rfl, hm, hmhigh, -⟩
      · have := ht.fresh.unlinked url q n (hsame ▸ hq) hnext
        omega
      · exact hurl ⟨m, rfl, hm, by rw [hcount]; exact hmhigh⟩
    · intro j l hj hl url hurl
      rintro ⟨n, rfl, hlow, -⟩
      have hlt : j < t.listings.length := by
        have hlen := (List.getElem?_eq_some_iff.1 hl).1
        rw [List.length_append, List.length_singleton] at hlen
        omega
      rw [List.getElem?_append_left hlt] at hl
      have := ht.known l (List.mem_of_getElem? hl) n hurl
      omega

/-- A listing that is started at any time gives a snapshot of the store at that time: one page more each
time that it is asked for the next one, whatever is done in between, as long as nobody asks for its pages
but itself. -/
theorem listing_snapshot (ht : t.Reached) (kind : Kind) (filters : Dict String) (moves : List Move)
    (hm : ∀ m ∈ moves, m.Spares t.store.pageCount (t.store.list kind filters).2.pageCount) :
    ∃ pages, Snapshot t.store kind filters pages ∧
      (t.run (.start kind filters :: moves)).listings[t.listings.length]? =
        some ⟨kind, pages.take (1 + moves.countP (Move.isAdvance t.listings.length))⟩ := by
  obtain ⟨left, hsnapshot, hchain⟩ := ht.sound.start kind filters
  have hrun := hchain.run (ht.sound.step (.start kind filters)) hm
  refine ⟨_, hsnapshot, hrun.listing.trans ?_⟩
  rw [Nat.add_comm, List.take_succ_cons]
  rfl

/-- Three projects, two of them in one cluster, handed out one at a time. -/
def threeProjects : Store :=
  { Store.ofRecords [⟨"c-1", "prod"⟩, ⟨"c-2", "dev"⟩]
      [⟨"p-1", "web", "c-1"⟩, ⟨"p-2", "web", "c-2"⟩, ⟨"p-3", "db", "c-1"⟩] with pageSize := some 1 }

def ofProd : Dict String := Dict.ofList [("clusterId", "c-1")]

/-- A listing of the two is followed to its end, while a project of their cluster comes in and one of the two goes, and
while another listing is started and advanced. -/
theorem listing_snapshot_threeProjects :
    let moves : List Move := [.inserted .project ⟨"p-0", "old", "c-1"⟩, .start .project ∅, .advance 1,
      .called (.delete .project ⟨"p-3", "db", "c-1"⟩), .lookup .cluster "dev" ∅, .advance 0, .advance 1]
    ∃ pages, Snapshot threeProjects .project ofProd pages ∧
      ((Traffic.mk threeProjects []).run (.start .project ofProd :: moves)).listings[0]? =
        some ⟨.project, pages.take 2⟩ ∧
      (pages.take 2).flatMap Page.records = [⟨"p-1", "web", "c-1"⟩, ⟨"p-3", "db", "c-1"⟩] := by
  intro moves
  have hreached : (Traffic.mk threeProjects []).Reached :=
    ⟨threeProjects, [], .paged 1 Store.reachable_ofRecords, rfl⟩
  have hspares : ∀ m ∈ moves, m.Spares threeProjects.pageCount (threeProjects.list .project ofProd).2.pageCount := by
    intro m hm
    simp only [moves, List.mem_cons, List.not_mem_nil, or_false] at hm
    rcases hm with rfl | rfl | rfl | rfl | rfl | rfl | rfl <;> trivial
  obtain ⟨pages, hsnapshot, hrun⟩ := listing_snapshot hreached .project ofProd moves hspares
  have hend : ((Traffic.mk threeProjects []).run (.start .project ofProd :: moves)).listings[0]? =
      some ⟨.project, [⟨[⟨"p-1", "web", "c-1"⟩], some ⟨some "fake://page/1", true⟩⟩,
        ⟨[⟨"p-3", "db", "c-1"⟩], some ⟨none, false⟩⟩]⟩ := by cbv
  have hpages : pages.take 2 = _ := eq_of_heq (Listing.mk.inj (Option.some.inj (hrun.symm.trans hend))).2
  exact ⟨pages, hsnapshot, hrun, by rw [hpages]; rfl⟩

end Traffic

end MultiCluster
