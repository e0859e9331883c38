/-
The pages that wait in a store. Filing numbers them from the count on, so what was filed before stays
where it is (`get?_pages_file`) and draining what was filed leaves the table as it was (`drain_file`):
a listing that is followed to its end raises the count of pages and does nothing else
(`run_listAll_of_fresh`). Calls that hand out no pages neither look at the table nor change it
(`answer_repage`).
-/
import MultiCluster.Proofs.Store.Reachable
namespace MultiCluster

theorem Dict.erase_insert_of_free {α : Type} {d : Dict α} {k : String} (h : d.get? k = none) (v : α) :
    (d.insert k v).erase k = d := by
  refine ext_get? fun k' => ?_
  rw [get?_erase, get?_insert]
  split
  · rename_i he
    rw [← he, h]
  · rfl

namespace Store

variable {s : Store} {kind : Kind} {r : List (List kind.Record)}

/-- No page waits, or is waited for, under a number that was not given out. -/
structure Fresh (s : Store) : Prop where
  free : ∀ n, s.pageCount < n → s.pages.get? (pageUrl n) = none
  unlinked : ∀ url p n, s.pages.get? url = some p → p.next = some (pageUrl n) → n ≤ s.pageCount

/-! ## Filing and handing out -/

/-- The numbers at which `r` pages are filed. -/
theorem pageCount_file (kind : Kind) (r : List (List kind.Record)) (s : Store) :
    (file kind r s).2.pageCount = s.pageCount + r.length := (file_spec kind r s).2.2.1

theorem eq_pageUrl_of_firstUrl {α : Type} {c n : Nat} {r : List α} (h : firstUrl c r = some (pageUrl n)) :
    c < n ∧ n = c + r.length := by
  unfold firstUrl at h
  split at h
  · cases h
  · rename_i hne
    have hpos : 0 < r.length := List.length_pos_iff.2 fun he => hne (by rw [he]; rfl)
    have := pageUrl_injective (Option.some.inj h)
    omega

/-- A page that waits after filing waited before, or was filed and leads to one that was. -/
theorem get?_pages_file (kind : Kind) (r : List (List kind.Record)) (s : Store) (url : String) :
    (file kind r s).2.pages.get? url = s.pages.get? url ∨
      ∃ n p, url = pageUrl n ∧ s.pageCount < n ∧ n ≤ s.pageCount + r.length ∧
        (file kind r s).2.pages.get? url = some p ∧
        ∀ m, p.next = some (pageUrl m) → s.pageCount < m ∧ m < n := by
  induction r with
  | nil => exact .inl rfl
  | cons q r ih =>
    have hu := (file_spec kind r s).1
    have hc : (file kind r s).2.pageCount + 1 = s.pageCount + r.length + 1 := by rw [pageCount_file]
    simp only [file, hu, hc, List.length_cons]
    by_cases he : pageUrl (s.pageCount + r.length + 1) = url
    · refine .inr ⟨s.pageCount + r.length + 1, _, he.symm, by omega, by omega, by rw [he, Dict.get?_insert_self],
        fun m hm => ?_⟩
      have := eq_pageUrl_of_firstUrl hm
      omega
    · rw [Dict.get?_insert, if_neg he]
      rcases ih with ih | ⟨n, p, hn, hlow, hhigh, hp, hnext⟩
      · exact .inl ih
      · exact .inr ⟨n, p, hn, hlow, by omega, hp, hnext⟩

theorem Fresh.file (h : s.Fresh) (kind : Kind) (r : List (List kind.Record)) : (file kind r s).2.Fresh := by
  have hc := pageCount_file kind r s
  constructor
  case free =>
    intro n hn
    rcases get?_pages_file kind r s (pageUrl n) with hsame | ⟨m, p, hm, -, hhigh, -⟩
    · rw [hsame]
      exact h.free n (by omega)
    · have := pageUrl_injective hm
      omega
  case unlinked =>
    intro url p n hp hnext
    rcases get?_pages_file kind r s url with hsame | ⟨m, p', -, -, hhigh, hp', hlinks⟩
    · rw [hsame] at hp
      have := h.unlinked url p n hp hnext
      omega
    · rw [hp'] at hp
      cases hp
      have := hlinks n hnext
      omega

theorem Fresh.erase (h : s.Fresh) (url : String) : ({ s with pages := s.pages.erase url } : Store).Fresh := by
  constructor
  case free =>
    intro n hn
    show (s.pages.erase url).get? (pageUrl n) = none
    rw [Dict.get?_erase, h.free n hn, ite_self]
  case unlinked =>
    intro url' p n hp
    change (s.pages.erase url).get? url' = some p at hp
    rw [Dict.get?_erase] at hp
    split at hp
    · cases hp
    · exact h.unlinked url' p n hp

/-- Numbers that are skipped stay free. -/
theorem Fresh.skip (h : s.Fresh) {n : Nat} (hn : s.pageCount ≤ n) : ({ s with pageCount := n } : Store).Fresh :=
  ⟨fun m hm => h.free m (Nat.lt_of_le_of_lt hn hm), fun url p m hp hm => Nat.le_trans (h.unlinked url p m hp hm) hn⟩

/-- Asking for a page takes out at most the one that is asked for. -/
theorem snd_next (kind : Kind) (page : Page kind.Record) (s : Store) :
    (s.next kind page).2 = s ∨
      ∃ url, page.next? = some url ∧ (s.next kind page).2 = { s with pages := s.pages.erase url } := by
  unfold next
  split
  · exact .inl rfl
  · rename_i url hu
    split
    · exact .inl rfl
    · refine .inr ⟨url, hu, ?_⟩
      dsimp only
      split <;> rfl

/-- The URL of a page that is given out was one of the store's. -/
theorem next?_next {kind : Kind} {page p : Page kind.Record} {s s' : Store}
    (h : s.next kind page = (.ok (some p), s')) :
    ∃ url q, page.next? = some url ∧ s.pages.get? url = some q ∧ p.next? = q.next := by
  unfold next at h
  split at h
  · cases h
  · rename_i url hu
    split at h
    · cases h
    · rename_i q hq
      dsimp only at h
      split at h
      · cases h
        exact ⟨url, q, hu, hq, rfl⟩
      · cases h

/-! ## Calls that hand out no pages -/

/-- The store with other pages. -/
def repage (s : Store) (size : Option Nat) (pages : Dict StoredPage) (count : Nat) : Store :=
  { s with pageSize := size, pages, pageCount := count }

/-- What a call does that hands out no pages has nothing to do with the pages. -/
theorem answer_repage {c : Call} (h : ¬ c.IsPaging) (size : Option Nat) (pages : Dict StoredPage) (count : Nat) :
    (Client.answer c).run (s.repage size pages count) =
      (((Client.answer c).run s).1, ((Client.answer c).run s).2.repage size pages count) := by
  cases c with
  | list | next => exact absurd trivial h
  | byId kind id =>
    show (s.repage size pages count).byId kind id = ((s.byId kind id).1, (s.byId kind id).2.repage size pages count)
    have hscript : ((s.repage size pages count).countFetch kind id).scripts = (s.countFetch kind id).scripts := rfl
    have hget : ((s.repage size pages count).countFetch kind id).get? kind id = (s.countFetch kind id).get? kind id :=
      rfl
    unfold byId
    dsimp only
    rw [hscript, hget]
    split
    · rfl
    · rfl
    · split <;> rfl
  | create kind r =>
    show (.ok ((s.repage size pages count).create kind r).1, ((s.repage size pages count).create kind r).2) =
      ((.ok (s.create kind r).1, (s.create kind r).2.repage size pages count) : Except Fault kind.Record × Store)
    unfold create
    dsimp only
    split <;> rfl
  | update kind r =>
    show (s.repage size pages count).update kind r = ((s.update kind r).1, (s.update kind r).2.repage size pages count)
    have hget : (s.repage size pages count).get? kind (kind.id r) = s.get? kind (kind.id r) := rfl
    unfold update
    rw [hget]
    split <;> rfl
  | delete kind r =>
    show (s.repage size pages count).delete kind r = ((s.delete kind r).1, (s.delete kind r).2.repage size pages count)
    have hget : (s.repage size pages count).get? kind (kind.id r) = s.get? kind (kind.id r) := rfl
    unfold delete
    rw [hget]
    split <;> rfl
  | action | link | sleep => rfl

/-- It leaves the pages alone. -/
theorem pages_answer {c : Call} (h : ¬ c.IsPaging) (s : Store) :
    ((Client.answer c).run s).2.pages = s.pages ∧ ((Client.answer c).run s).2.pageCount = s.pageCount := by
  have hrun := congrArg Prod.snd (answer_repage (s := s) h s.pageSize s.pages s.pageCount)
  change ((Client.answer c).run s).2 = _ at hrun
  rw [hrun]
  exact ⟨rfl, rfl⟩

theorem pageCount_le_answer (c : Call) (s : Store) : s.pageCount ≤ ((Client.answer c).run s).2.pageCount := by
  have hother : ¬ c.IsPaging → s.pageCount ≤ ((Client.answer c).run s).2.pageCount := fun hc =>
    Nat.le_of_eq (pages_answer hc s).2.symm
  cases c with
  | list kind filters =>
    show s.pageCount ≤ (s.list kind filters).2.pageCount
    obtain ⟨p, r, hlist, -⟩ := list_spec kind filters s
    rw [hlist, pageCount_file]
    exact Nat.le_add_right _ _
  | next kind page =>
    show s.pageCount ≤ (s.next kind page).2.pageCount
    rcases snd_next kind page s with hsame | ⟨url, -, herase⟩
    · exact Nat.le_of_eq (congrArg Store.pageCount hsame).symm
    · exact Nat.le_of_eq (congrArg Store.pageCount herase).symm
  | byId | create | update | delete | action | link | sleep => exact hother not_false

theorem Fresh.congr (h : s.Fresh) {t : Store} (hp : t.pages = s.pages) (hc : t.pageCount = s.pageCount) : t.Fresh :=
  ⟨fun n hn => by rw [hp]; exact h.free n (hc ▸ hn), fun url p n hu => by rw [hc]; exact h.unlinked url p n (hp ▸ hu)⟩

theorem Fresh.answered (h : s.Fresh) (c : Call) : ((Client.answer c).run s).2.Fresh := by
  have hother : ¬ c.IsPaging → ((Client.answer c).run s).2.Fresh := fun hc =>
    h.congr (pages_answer hc s).1 (pages_answer hc s).2
  cases c with
  | list kind filters =>
    show (s.list kind filters).2.Fresh
    obtain ⟨p, r, hlist, -⟩ := list_spec kind filters s
    rw [hlist]
    exact h.file kind r
  | next kind page =>
    show (s.next kind page).2.Fresh
    rcases snd_next kind page s with hsame | ⟨url, -, herase⟩
    · rw [hsame]
      exact h
    · rw [herase]
      exact h.erase url
  | byId | create | update | delete | action | link | sleep => exact hother not_false

theorem Reachable.fresh (h : s.Reachable) : s.Fresh := by
  induction h with
  | empty => exact ⟨fun _ _ => rfl, fun _ _ _ h => by cases h⟩
  | paged size _ ih => exact ⟨ih.free, ih.unlinked⟩
  | inserted | scripted | linked => rename_i ih; exact ⟨ih.free, ih.unlinked⟩
  | answered c _ ih => exact ih.answered c

/-! ## Draining -/

/-- Draining the pages that were filed empties their places, whatever the count of pages is by then. -/
theorem drain_file (h : s.Fresh) (count : Nat) {page : Page kind.Record} (hu : page.next? = firstUrl s.pageCount r)
    (hp : page.isPartial = (firstUrl s.pageCount r).isSome) :
    Client.drain kind page { (file kind r s).2 with pageCount := count } =
      (.ok (page.records ++ r.flatten), { s with pageCount := count }) := by
  induction r generalizing page with
  | nil => rw [Client.drain_last hp, List.flatten_nil, List.append_nil]; rfl
  | cons p r ih =>
    have hc : (file kind r s).2.pageCount + 1 = s.pageCount + r.length + 1 := by rw [pageCount_file]
    let url := pageUrl (s.pageCount + r.length + 1)
    have hfile : (file kind (p :: r) s).2.pages =
        (file kind r s).2.pages.insert url ⟨kind, p, firstUrl s.pageCount r⟩ := by
      simp only [file, hc, (file_spec kind r s).1]
      rfl
    have hfree : (file kind r s).2.pages.get? url = none := (h.file kind r).free _ (by rw [pageCount_file]; omega)
    have hnext : (Client.answer (.next kind page)).run { (file kind (p :: r) s).2 with pageCount := count } =
        (.ok (some ⟨p, some ⟨firstUrl s.pageCount r, (firstUrl s.pageCount r).isSome⟩⟩),
          { (file kind r s).2 with pageCount := count }) := by
      have hurl : page.next? = some url := hu
      have hwait : ({ (file kind (p :: r) s).2 with pageCount := count } : Store).pages.get? url =
          some ⟨kind, p, firstUrl s.pageCount r⟩ := by
        show (file kind (p :: r) s).2.pages.get? url = _
        rw [hfile, Dict.get?_insert_self]
      -- the page is taken from the place it was put in
      refine (next_of_waiting hurl hwait).trans ?_
      show (_, { (file kind r s).2 with pages := (file kind (p :: r) s).2.pages.erase url, pageCount := count }) = _
      rw [hfile, Dict.erase_insert_of_free hfree]
    rw [Client.drain_next_some hp hnext, ih rfl rfl]
    rfl

/-- A listing that is followed to its end leaves nothing behind but a higher count of pages. -/
theorem run_listAll_of_fresh (h : s.Fresh) (kind : Kind) (filters : Dict String) :
    ∃ count, s.pageCount ≤ count ∧
      (Client.listAll kind filters).run s = (.ok (s.found kind filters), { s with pageCount := count }) := by
  obtain ⟨p, r, hlist, hflat, -⟩ := list_spec kind filters s
  refine ⟨(file kind r s).2.pageCount, by rw [pageCount_file]; omega, ?_⟩
  have hdrain := drain_file h (file kind r s).2.pageCount (next?_firstPage s.pageCount p r)
    (isPartial_firstPage s.pageCount p r)
  show Client.drain kind (s.list kind filters).1 (s.list kind filters).2 = _
  rw [hlist, ← hflat]
  exact hdrain

/-- A listing that is started leads to a page whose number was not given out before. -/
theorem next?_list {kind : Kind} {filters : Dict String} {s : Store} {url : String}
    (h : (s.list kind filters).1.next? = some url) :
    ∃ n, url = pageUrl n ∧ s.pageCount < n ∧ n ≤ (s.list kind filters).2.pageCount := by
  obtain ⟨p, r, hlist, -⟩ := list_spec kind filters s
  rw [hlist] at h ⊢
  have hfirst : firstUrl s.pageCount r = some url := (next?_firstPage s.pageCount p r).symm.trans h
  have hurl : url = pageUrl (s.pageCount + r.length) := by
    unfold firstUrl at hfirst
    split at hfirst
    · cases hfirst
    · exact (Option.some.inj hfirst).symm
  obtain ⟨hlow, -⟩ := eq_pageUrl_of_firstUrl (hurl ▸ hfirst)
  exact ⟨_, hurl, hlow, Nat.le_of_eq (pageCount_file kind r s).symm⟩

/-- A lookup ends where it began, but for the count of pages. -/
theorem pages_lookup (h : s.Fresh) (kind : Kind) (reference : String) (filters : Dict String) :
    ((Client.lookup kind reference filters).run s).2.pages = s.pages ∧
      s.pageCount ≤ ((Client.lookup kind reference filters).run s).2.pageCount := by
  unfold Client.lookup
  split
  · exact ⟨rfl, Nat.le_refl _⟩
  · obtain ⟨count, hcount, hrun⟩ := run_listAll_of_fresh h kind (filters.insert "name" reference)
    rw [Attempt.run_bind_ok hrun]
    match s.found kind (filters.insert "name" reference) with
    | [] =>
      obtain ⟨hp, hc⟩ := pages_answer (c := .byId kind reference) not_false { s with pageCount := count }
      dsimp only
      rw [Attempt.run_mapError]
      exact ⟨hp, Nat.le_trans hcount (Nat.le_of_eq hc.symm)⟩
    | [_] => exact ⟨rfl, hcount⟩
    | _ :: _ :: _ => exact ⟨rfl, hcount⟩

end Store

end MultiCluster
