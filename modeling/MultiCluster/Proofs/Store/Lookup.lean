/-
How a lookup on the store decides. All records of the name that pass the other filters are listed before anything
is decided, whatever the size of the pages, so one more of that name is never overlooked; and a record is fetched by
the reference as its ID just where none is listed (`lookup_decides`). What is asked of the store is read off a client
that records its calls and else answers as the store does (`agree_listAll`).
-/
import MultiCluster.Proofs.Client.Agreement
import MultiCluster.Proofs.Client.Calls
import MultiCluster.Proofs.Store.Reachable
namespace MultiCluster

/-! ## Recorded listings -/

namespace Traced

variable {σ : Type} [Client σ]

/-- What is recorded is what is done on the client itself. -/
def Records (t : Traced σ) (s : σ) : Prop := t.client = s

theorem agree_drain (kind : Kind) (page : Page kind.Record) :
    Attempt.Agree Records (Client.drain (σ := Traced σ) kind page) (Client.drain kind page) := by
  rintro ⟨s, before⟩ _ rfl
  refine Client.drain_induction (motive := fun page s => ∀ before,
    (Client.drain kind page (⟨s, before⟩ : Traced σ)).1 = (Client.drain kind page s).1 ∧
      (Client.drain kind page (⟨s, before⟩ : Traced σ)).2.client =
        (Client.drain kind page s).2) ?last ?more page s before
  case last =>
    intro page s hlast before
    rw [Client.drain_last hlast, Client.drain_last hlast]
    exact ⟨rfl, rfl⟩
  case more =>
    intro page s hpartial ih before
    rcases hn : Client.answer (.next kind page) s with ⟨e | _ | p, s'⟩
    all_goals have hn' := Client.answer_traced hn before
    · rw [Client.drain_next_error hpartial hn, Client.drain_next_error hpartial hn']
      exact ⟨rfl, rfl⟩
    · rw [Client.drain_next_none hpartial hn, Client.drain_next_none hpartial hn']
      exact ⟨rfl, rfl⟩
    · obtain ⟨hresult, hclient⟩ := ih p s' hn (.next kind page :: before)
      rw [Client.drain_next_some hpartial hn, Client.drain_next_some hpartial hn', hresult]
      exact ⟨rfl, hclient⟩

theorem agree_listAll (kind : Kind) (filters : Dict String) :
    Attempt.Agree Records (Client.listAll kind filters : Attempt Fault (Traced σ) _) (Client.listAll kind filters) := by
  refine .bind ?_ fun page => agree_drain kind page
  rintro ⟨s, before⟩ _ rfl
  exact ⟨rfl, rfl⟩

/-- The calls go on from those before with calls for pages alone. -/
def Pages (before after : List Call) : Prop := ∃ pages, after = pages ++ before ∧ ∀ c ∈ pages, c.IsPaging

instance : IsPreorder (List Call) Pages where
  refl calls := ⟨[], rfl, by simp⟩
  trans _ _ _ h h' := by
    obtain ⟨pages, rfl, hpages⟩ := h
    obtain ⟨pages', rfl, hpages'⟩ := h'
    refine ⟨pages' ++ pages, (List.append_assoc ..).symm, fun c hc => ?_⟩
    exact (List.mem_append.1 hc).elim (hpages' c) (hpages c)

theorem pagingKeeps : Client.PagingKeeps (σ := Traced σ) Traced.calls Pages := fun c hc t =>
  ⟨[c], rfl, by simpa using hc⟩

end Traced

/-! ## Lookups -/

namespace Store

variable {s : Store} {kind : Kind} {reference : String} {filters : Dict String}

/-- A listing that is recorded on the store gives what passes the filters, and is made of calls for pages. -/
theorem run_listAll_traced (kind : Kind) (filters : Dict String) (s : Store) :
    ∃ t pages, (Client.listAll kind filters).run (⟨s, []⟩ : Traced Store) = (.ok (s.found kind filters), ⟨t, pages⟩) ∧
      s.PagesOnly t ∧ ∀ c ∈ pages, c.IsPaging := by
  obtain ⟨t, hrun, ht⟩ := run_listAll kind filters s
  obtain ⟨hresult, hclient⟩ := Traced.agree_listAll kind filters (⟨s, []⟩ : Traced Store) s rfl
  obtain ⟨pages, hcalls, hpages⟩ := Traced.pagingKeeps.listAll kind filters (⟨s, []⟩ : Traced Store)
  rcases hout : (Client.listAll kind filters).run (⟨s, []⟩ : Traced Store) with ⟨r, ⟨t', calls⟩⟩
  rw [hout, hrun] at hresult hclient
  rw [hout, List.append_nil] at hcalls
  obtain rfl : r = _ := hresult
  obtain rfl : t' = t := hclient
  obtain rfl : calls = pages := hcalls
  exact ⟨t', calls, rfl, ht, hpages⟩

/-- What a lookup on the store comes to, and what it asks for, the last call first. -/
structure Decides (s : Store) (kind : Kind) (reference : String) (filters : Dict String) (matching : List kind.Record)
    (result : Except Fault kind.Record) (calls : List Call) : Prop where
  /-- These are the stored records of the name that have the text of every other filter. -/
  mem_iff : ∀ r, r ∈ matching ↔ (∃ id, s.get? kind id = some r) ∧ kind.textAt r "name" = some reference ∧
    ∀ f v, f ≠ "name" → filters.get? f = some v → kind.textAt r f = some v
  ascending : (matching.map kind.id).Pairwise (· < ·)
  blank : reference = "" → result = .error (.notFound kind reference) ∧ calls = []
  several : reference ≠ "" → 2 ≤ matching.length → result = .error (.ambiguous kind reference (matching.map kind.id))
  one : reference ≠ "" → ∀ r, matching = [r] → result = .ok r
  stored : reference ≠ "" → matching = [] → ∀ r, s.get? kind reference = some r → result = .ok r
  missing : reference ≠ "" → matching = [] → s.get? kind reference = none → result = .error (.notFound kind reference)
  fetched : reference ≠ "" → ∃ pages : List Call, (∀ c ∈ pages, c.IsPaging) ∧
    calls = (if matching.isEmpty then [.byId kind reference] else []) ++ pages

theorem mem_found_name (hs : s.Reachable) {r : kind.Record} :
    r ∈ s.found kind (filters.insert "name" reference) ↔ (∃ id, s.get? kind id = some r) ∧
      kind.textAt r "name" = some reference ∧ ∀ f v, f ≠ "name" → filters.get? f = some v →
      kind.textAt r f = some v := by
  rw [mem_found hs.keyed, Kind.matchesAll_insert]
  refine and_congr ⟨fun h => ⟨_, h⟩, fun ⟨_, h⟩ => hs.keyed.get?_id h⟩ (and_congr_right fun _ => ?_)
  exact forall₂_congr fun f v => by rw [ne_comm]

/-- Behind the listing a lookup asks for the record with that ID, where nothing is listed. -/
theorem calls_lookup (hne : reference ≠ "") (filters : Dict String) (s : Store) :
    ∃ pages : List Call, (∀ c ∈ pages, c.IsPaging) ∧
      ((Client.lookup kind reference filters).run (⟨s, []⟩ : Traced Store)).2.calls =
        (if (s.found kind (filters.insert "name" reference)).isEmpty then [.byId kind reference] else []) ++ pages := by
  obtain ⟨t, pages, hrun, -, hpages⟩ := run_listAll_traced kind (filters.insert "name" reference) s
  refine ⟨pages, hpages, ?_⟩
  unfold Client.lookup
  rw [if_neg (by simpa using hne), Attempt.run_bind_ok hrun]
  match s.found kind (filters.insert "name" reference) with
  | [] =>
    dsimp only
    rw [Attempt.run_mapError]
    rfl
  | [_] => rfl
  | _ :: _ :: _ => rfl

/-- A lookup decides exactly, on every store that can come about and has no script for what the reference would
be fetched as. -/
theorem lookup_decides (hs : s.Reachable) (hscript : s.scriptOf kind reference = []) (filters : Dict String) :
    Decides s kind reference filters (s.found kind (filters.insert "name" reference))
      ((Client.lookup kind reference filters).run s).1
      ((Client.lookup kind reference filters).run (⟨s, []⟩ : Traced Store)).2.calls := by
  obtain ⟨t, hrun, -⟩ := run_lookup hscript filters
  have hblank : reference ≠ "" → ¬ reference.isEmpty = true := fun hne => by simpa using hne
  rw [hrun]
  constructor
  case mem_iff => exact fun r => mem_found_name hs
  case ascending => exact ascending_found hs.keyed
  case blank =>
    rintro rfl
    exact ⟨rfl, rfl⟩
  case several =>
    intro hne hlength
    rw [lookedUp, if_neg (hblank hne)]
    generalize s.found kind (filters.insert "name" reference) = matching at hlength ⊢
    rcases matching with _ | ⟨r, _ | ⟨r', matching⟩⟩
    · simp at hlength
    · simp at hlength
    · rfl
  case one =>
    intro hne r hr
    rw [lookedUp, if_neg (hblank hne), hr]
  case stored =>
    intro hne hnone r hr
    rw [lookedUp, if_neg (hblank hne), hnone, hr]
    rfl
  case missing =>
    intro hne hnone hr
    rw [lookedUp, if_neg (hblank hne), hnone, hr]
    rfl
  case fetched => exact fun hne => calls_lookup hne filters s

/-- Clusters handed out one at a time; two have one name, and it is the ID of a third. -/
def namesakes : Store :=
  { Store.ofRecords [⟨"c-1", "c-3"⟩, ⟨"c-2", "dev"⟩, ⟨"c-3", "edge"⟩, ⟨"c-4", "c-3"⟩] [] with pageSize := some 1 }

/-- The name counts before the ID, and the second of the name is met on the last page. What is the name of none is
fetched as an ID. -/
theorem lookup_decides_namesakes : namesakes.Reachable ∧ namesakes.scriptOf .cluster "c-3" = [] ∧
    ((Client.lookup .cluster "c-3" ∅).run namesakes).1 = .error (.ambiguous .cluster "c-3" ["c-1", "c-4"]) ∧
    namesakes.scriptOf .cluster "c-2" = [] ∧
    ((Client.lookup .cluster "c-2" ∅).run namesakes).1 = .ok ⟨"c-2", "dev"⟩ ∧
    ∃ pages : List Call, (∀ c ∈ pages, c.IsPaging) ∧
      ((Client.lookup .cluster "c-2" ∅).run (⟨namesakes, []⟩ : Traced Store)).2.calls =
        .byId .cluster "c-2" :: pages := by
  have hreachable : namesakes.Reachable := .paged 1 reachable_ofRecords
  have htwo : namesakes.found .cluster (Dict.insert ∅ "name" "c-3") = [⟨"c-1", "c-3"⟩, ⟨"c-4", "c-3"⟩] := by
    decide +kernel
  have hnone : namesakes.found .cluster (Dict.insert ∅ "name" "c-2") = [] := by decide +kernel
  have hnamed := lookup_decides hreachable (rfl : namesakes.scriptOf .cluster "c-3" = []) ∅
  have hid := lookup_decides hreachable (rfl : namesakes.scriptOf .cluster "c-2" = []) ∅
  rw [htwo] at hnamed
  rw [hnone] at hid
  exact ⟨hreachable, rfl, hnamed.several (by decide) (by decide), rfl, hid.stored (by decide) rfl _ rfl,
    hid.fetched (by decide)⟩

end Store

end MultiCluster
