/-
Listings that are read while other work goes on. A move starts a listing, asks for the next page of one
that was started, or does anything else that can be done to a store (`Move`). Whatever the moves are, no
listing leads to a page whose number was not given out (`Sound.run`).
-/
import MultiCluster.Proofs.Store.Pages
namespace MultiCluster

/-! ## Listings and moves -/

/-- A listing with the pages that it has given so far. -/
structure Listing where
  kind : Kind
  pages : List (Page kind.Record)

namespace Listing

def last (l : Listing) : Page l.kind.Record := l.pages.getLastD {}

/-- Asks for the page behind the last one. -/
def advance (l : Listing) (s : Store) : Listing × Store :=
  match s.next l.kind l.last with
  | (.ok (some p), s') => (⟨l.kind, l.pages ++ [p]⟩, s')
  | (_, s') => (l, s')

end Listing

/-- A store with the listings that were started on it. -/
structure Traffic where
  store : Store
  listings : List Listing := []

/-- What can be done to a store and its listings. -/
inductive Move where
  | start (kind : Kind) (filters : Dict String)
  /-- Asks for the next page of the listing with that number. -/
  | advance (i : Nat)
  | paged (size : Nat)
  | inserted (kind : Kind) (r : kind.Record)
  | scripted (kind : Kind) (id : String) (responses : List kind.Record)
  | linked (url : String) (body : Json)
  | called (c : Call)
  | lookup (kind : Kind) (reference : String) (filters : Dict String)

namespace Move

def isAdvance (i : Nat) : Move → Bool
  | .advance j => j = i
  | _ => false

end Move

namespace Traffic

def step (t : Traffic) : Move → Traffic
  | .start kind filters =>
    { store := (t.store.list kind filters).2, listings := t.listings ++ [⟨kind, [(t.store.list kind filters).1]⟩] }
  | .advance i =>
    match t.listings[i]? with
    | none => t
    | some l => { store := (l.advance t.store).2, listings := t.listings.set i (l.advance t.store).1 }
  | .paged size => { t with store := { t.store with pageSize := some size } }
  | .inserted kind r => { t with store := t.store.insert kind r }
  | .scripted kind id responses => { t with store := t.store.script kind id responses }
  | .linked url body => { t with store := t.store.insertLink url body }
  | .called c => { t with store := ((Client.answer c).run t.store).2 }
  | .lookup kind reference filters => { t with store := ((Client.lookup kind reference filters).run t.store).2 }

def run (t : Traffic) (moves : List Move) : Traffic := moves.foldl step t

@[simp] theorem run_nil (t : Traffic) : t.run [] = t := rfl

@[simp] theorem run_cons (t : Traffic) (m : Move) (moves : List Move) : t.run (m :: moves) = (t.step m).run moves := rfl

end Traffic

/-! ## Traffic that is sound -/

namespace Traffic

variable {t : Traffic}

/-- Records lie under their IDs, and nothing leads to a page whose number was not given out. -/
structure Sound (t : Traffic) : Prop where
  keyed : t.store.Keyed
  fresh : t.store.Fresh
  known : ∀ l ∈ t.listings, ∀ n, l.last.next? = some (Store.pageUrl n) → n ≤ t.store.pageCount

theorem Sound.of_reachable {s : Store} (h : s.Reachable) : (Traffic.mk s []).Sound :=
  ⟨h.keyed, h.fresh, fun _ hl => by cases hl⟩

/-- Asking for the next page of a listing gives the page, or leaves the listing as it was. -/
theorem advance_cases (l : Listing) (s : Store) :
    (l.advance s).2 = (s.next l.kind l.last).2 ∧ ((l.advance s).1 = l ∨
      ∃ p url q, (l.advance s).1 = ⟨l.kind, l.pages ++ [p]⟩ ∧ l.last.next? = some url ∧ s.pages.get? url = some q ∧
        p.next? = q.next) := by
  unfold Listing.advance
  rcases hn : s.next l.kind l.last with ⟨e | _ | p, s'⟩
  · exact ⟨rfl, .inl rfl⟩
  · exact ⟨rfl, .inl rfl⟩
  · obtain ⟨url, q, hu, hq, hp⟩ := Store.next?_next hn
    exact ⟨rfl, .inr ⟨p, url, q, rfl, hu, hq, hp⟩⟩

theorem last_append {kind : Kind} (pages : List (Page kind.Record)) (p : Page kind.Record) :
    (Listing.last ⟨kind, pages ++ [p]⟩) = p := by
  simp [Listing.last]

theorem Sound.step (h : t.Sound) (m : Move) : (t.step m).Sound := by
  -- a listing that was known before is known when more pages are numbered
  have hold : ∀ {s : Store}, s.Keyed → s.Fresh → t.store.pageCount ≤ s.pageCount → (Traffic.mk s t.listings).Sound :=
    fun hk hf hc => ⟨hk, hf, fun l hl n hn => Nat.le_trans (h.known l hl n hn) hc⟩
  have hrecords : ∀ {s : Store}, t.store.Kept s → s.Keyed := fun hs => h.keyed.congr hs.records
  cases m with
  | start kind filters =>
    obtain ⟨hk, hf, hknown⟩ := hold (hrecords (Store.pagesOnly_list kind filters t.store).kept)
      (h.fresh.answered (.list kind filters)) (Store.pageCount_le_answer (.list kind filters) t.store)
    refine ⟨hk, hf, fun l hl n hn => ?_⟩
    rcases List.mem_append.1 hl with hl | hl
    · exact hknown l hl n hn
    · obtain rfl := List.mem_singleton.1 hl
      have hnew : (t.store.list kind filters).1.next? = some (Store.pageUrl n) := hn
      obtain ⟨m, hm, -, hle⟩ := Store.next?_list hnew
      rw [Store.pageUrl_injective hm]
      exact hle
  | advance i =>
    unfold Traffic.step
    dsimp only
    split
    · exact h
    · rename_i l hl
      obtain ⟨hstore, hpages⟩ := advance_cases l t.store
      have hmem : l ∈ t.listings := List.mem_of_getElem? hl
      obtain ⟨hk, hf, hknown⟩ := hold (hrecords (Store.pagesOnly_next l.kind l.last t.store).kept)
        (h.fresh.answered (.next l.kind l.last)) (Store.pageCount_le_answer (.next l.kind l.last) t.store)
      rw [hstore]
      refine ⟨hk, hf, fun l' hl' n hn => ?_⟩
      rcases List.mem_or_eq_of_mem_set hl' with hl' | rfl
      · exact hknown l' hl' n hn
      · rcases hpages with hsame | ⟨p, url, q, hadd, -, hq, hnext⟩
        · rw [hsame] at hn
          exact hknown l hmem n hn
        · rw [hadd, last_append, hnext] at hn
          exact Nat.le_trans (h.fresh.unlinked url q n hq hn) (Store.pageCount_le_answer (.next l.kind l.last) t.store)
  | paged size => exact ⟨h.keyed, ⟨h.fresh.free, h.fresh.unlinked⟩, h.known⟩
  | inserted kind r => exact ⟨h.keyed.insert kind r, ⟨h.fresh.free, h.fresh.unlinked⟩, h.known⟩
  | scripted | linked => exact ⟨h.keyed, ⟨h.fresh.free, h.fresh.unlinked⟩, h.known⟩
  | called c => exact hold (h.keyed.answered c) (h.fresh.answered c) (Store.pageCount_le_answer c t.store)
  | lookup kind reference filters =>
    obtain ⟨hp, hc⟩ := Store.pages_lookup h.fresh kind reference filters
    have hkept : t.store.Kept ((Client.lookup kind reference filters).run t.store).2 :=
      Store.readsKeep.lookup kind reference filters t.store
    exact hold (hrecords hkept) ((h.fresh.skip hc).congr hp rfl) hc

theorem Sound.run (h : t.Sound) (moves : List Move) : (t.run moves).Sound := by
  induction moves generalizing t with
  | nil => exact h
  | cons m moves ih => exact ih (h.step m)

/-- The traffic that moves lead to from a store that can come about. -/
def Reached (t : Traffic) : Prop := ∃ s moves, s.Reachable ∧ t = (Traffic.mk s []).run moves

theorem Reached.sound (h : t.Reached) : t.Sound := by
  obtain ⟨s, moves, hs, rfl⟩ := h
  exact (Sound.of_reachable hs).run moves

end Traffic

end MultiCluster
