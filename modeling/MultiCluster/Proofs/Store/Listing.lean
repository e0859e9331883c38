/-
Listings of the store, whatever the size of its pages: a listing that is followed to its end gives
the records that pass the filters, in the order of their IDs, and touches nothing but the pages
(`run_listAll`). The pages that wait behind the first one are filed under numbers that are new, the
last page first (`Filed`, `file_spec`); handing one out leaves the ones behind it where they are, so
following them is an induction on the pieces (`drain_filed`).
-/
import MultiCluster.Proofs.Client.Reading
import MultiCluster.Store
namespace MultiCluster

namespace Store

/-- The second state differs from the first in the pages that wait, and in their count. -/
def PagesOnly (s t : Store) : Prop := t = { s with pages := t.pages, pageCount := t.pageCount }

theorem PagesOnly.refl (s : Store) : s.PagesOnly s := rfl

theorem PagesOnly.trans {s t u : Store} (h : s.PagesOnly t) (h' : t.PagesOnly u) : s.PagesOnly u := by
  unfold PagesOnly at *
  rw [h']
  rw [h]

/-! ## Pages waiting -/

/-- Behind the same text, different numbers are written differently. -/
theorem numbered_injective {p : String} {m n : Nat} (h : p ++ toString m = p ++ toString n) : m = n := by
  have hd := congrArg String.toList h
  simp only [String.toList_append, List.append_cancel_left_eq, Nat.toString_eq_repr, Nat.toList_repr] at hd
  simpa using congrArg (Nat.ofDigitChars 10 · 0) hd

theorem pageUrl_injective {m n : Nat} (h : pageUrl m = pageUrl n) : m = n := numbered_injective h

theorem pageUrl_ne {m n : Nat} (h : n < m) : pageUrl m ≠ pageUrl n := fun he => by
  have := pageUrl_injective he
  omega

/-- The URL of the first of the pages `r` that are numbered from `c + 1` on, the last one first. -/
def firstUrl {α : Type} (c : Nat) (r : List α) : Option String :=
  if r.isEmpty then none else some (pageUrl (c + r.length))

/-- The pieces wait as pages that are numbered from `c + 1` on, the last one first. -/
def Filed (kind : Kind) (pages : Dict StoredPage) (c : Nat) : List (List kind.Record) → Prop
  | [] => True
  | p :: r => pages.get? (pageUrl (c + r.length + 1)) = some ⟨kind, p, firstUrl c r⟩ ∧ Filed kind pages c r

/-- Only the pages of these numbers count. -/
theorem Filed.congr {kind : Kind} {pages pages' : Dict StoredPage} {c : Nat} {r : List (List kind.Record)}
    (h : Filed kind pages c r)
    (hp : ∀ n, c < n → n ≤ c + r.length → pages'.get? (pageUrl n) = pages.get? (pageUrl n)) :
    Filed kind pages' c r := by
  induction r with
  | nil => trivial
  | cons p r ih =>
    simp only [List.length_cons] at hp
    refine ⟨?_, ih h.2 fun n hlow hn => hp n hlow (by omega)⟩
    rw [hp (c + r.length + 1) (by omega) (by omega)]
    exact h.1

theorem file_spec (kind : Kind) (r : List (List kind.Record)) (s : Store) :
    (file kind r s).1 = firstUrl s.pageCount r ∧ s.PagesOnly (file kind r s).2 ∧
      (file kind r s).2.pageCount = s.pageCount + r.length ∧
      Filed kind (file kind r s).2.pages s.pageCount r := by
  induction r with
  | nil => exact ⟨rfl, .refl s, rfl, trivial⟩
  | cons p r ih =>
    obtain ⟨hu, hs, hc, hf⟩ := ih
    have hc' : (file kind r s).2.pageCount + 1 = s.pageCount + r.length + 1 := by rw [hc]
    simp only [file, hu, hc']
    refine ⟨by simp [firstUrl, Nat.add_assoc], hs.trans rfl, by simp [Nat.add_assoc],
      by simp [Dict.get?_insert_self], ?_⟩
    refine hf.congr fun n _ hn => ?_
    rw [Dict.get?_insert, if_neg (pageUrl_ne (by omega))]

/-! ## Following pages -/

theorem recast?_self (kind : Kind) (r : kind.Record) : recast? kind kind r = some r := by simp [recast?]

theorem mapM_recast?_self (kind : Kind) (l : List kind.Record) : l.mapM (recast? kind kind) = some l := by
  induction l with
  | nil => rfl
  | cons r l ih => simp [List.mapM_cons, recast?_self, ih]

/-- A page that waits is handed out and gone. -/
theorem next_of_waiting {kind : Kind} {page : Page kind.Record} {s : Store} {url : String} {p : List kind.Record}
    {next : Option String} (hu : page.next? = some url) (hp : s.pages.get? url = some ⟨kind, p, next⟩) :
    s.next kind page = (.ok (some ⟨p, some ⟨next, next.isSome⟩⟩), { s with pages := s.pages.erase url }) := by
  simp only [Store.next, hu, hp, mapM_recast?_self]

/-- Draining a page whose successors are filed collects them all. -/
theorem drain_filed {kind : Kind} {c : Nat} {r : List (List kind.Record)} {page : Page kind.Record} {s : Store}
    (hf : Filed kind s.pages c r) (hu : page.next? = firstUrl c r) (hp : page.isPartial = (firstUrl c r).isSome) :
    ∃ t, Client.drain kind page s = (.ok (page.records ++ r.flatten), t) ∧ s.PagesOnly t := by
  induction r generalizing page s with
  | nil => exact ⟨s, by rw [Client.drain_last hp, List.flatten_nil, List.append_nil], .refl s⟩
  | cons p r ih =>
    have hu' : page.next? = some (pageUrl (c + r.length + 1)) := hu
    have hn := next_of_waiting hu' hf.1
    have hs : s.PagesOnly { s with pages := s.pages.erase (pageUrl (c + r.length + 1)) } := rfl
    have hrest : Filed kind (s.pages.erase (pageUrl (c + r.length + 1))) c r := hf.2.congr fun n _ hn => by
      rw [Dict.get?_erase, if_neg (pageUrl_ne (by omega))]
    -- the pages behind the one that is handed out are still filed
    obtain ⟨t, ht, hst⟩ := @ih ⟨p, some ⟨firstUrl c r, (firstUrl c r).isSome⟩⟩
      { s with pages := s.pages.erase (pageUrl (c + r.length + 1)) } hrest rfl rfl
    refine ⟨t, ?_, hs.trans hst⟩
    rw [Client.drain_next_some hp hn, ht]
    rfl

/-! ## Starting a listing -/

/-- Every piece but the last one is full. -/
theorem length_of_mem_dropLast_chunks {α : Type} (n : Nat) (l : List α) :
    ∀ p ∈ (chunks n l).dropLast, p.length = n + 1 := by
  fun_induction chunks n l with
  | case1 => exact fun _ h => nomatch h
  | case2 x r ih =>
    intro p hp
    -- the first piece counts only if there is another one, which needs more than `n` elements behind `x`
    have hne : chunks n (r.drop n) ≠ [] := fun he => by rw [he] at hp; cases hp
    rw [List.dropLast_cons_of_ne_nil hne] at hp
    rcases List.mem_cons.1 hp with rfl | hp
    · have hrest : r.drop n ≠ [] := fun he => hne (by rw [he, chunks])
      have hlt := List.length_pos_iff.2 hrest
      rw [List.length_drop] at hlt
      rw [List.length_cons, List.length_take]
      omega
    · exact ih p hp

/-- The page that a listing begins with, where the pieces `r` behind it are numbered from `c + 1` on. -/
def firstPage {kind : Kind} (c : Nat) (p : List kind.Record) (r : List (List kind.Record)) : Page kind.Record :=
  ⟨p, (firstUrl c r).map fun url => ⟨some url, true⟩⟩

theorem next?_firstPage {kind : Kind} (c : Nat) (p : List kind.Record) (r : List (List kind.Record)) :
    (firstPage c p r).next? = firstUrl c r := by
  show (Option.map _ (firstUrl c r)).bind _ = _
  cases firstUrl c r <;> rfl

theorem isPartial_firstPage {kind : Kind} (c : Nat) (p : List kind.Record) (r : List (List kind.Record)) :
    (firstPage c p r).isPartial = (firstUrl c r).isSome := by
  show (Option.map _ (firstUrl c r)).any _ = _
  cases firstUrl c r <;> rfl

/-- A list call cuts the records that pass the filters into pieces, all of them full but the last one. It
hands out the first and files the others. -/
theorem list_spec (kind : Kind) (filters : Dict String) (s : Store) :
    ∃ p r, s.list kind filters = (firstPage s.pageCount p r, (file kind r s).2) ∧
      p ++ r.flatten = s.found kind filters ∧
      (∀ q ∈ (p :: r).dropLast, s.pageSize = some q.length ∧ q ≠ []) ∧
      ∀ n, s.pageSize = some (n + 1) → ∀ q ∈ p :: r, q.length ≤ n + 1 := by
  unfold list
  split
  · rename_i n hn
    have hflat := flatten_chunks n (s.found kind filters)
    have hle := length_le_of_mem_chunks n (s.found kind filters)
    have hfull := length_of_mem_dropLast_chunks n (s.found kind filters)
    split
    · rename_i hc
      rw [hc] at hflat
      exact ⟨[], [], rfl, hflat, by simp, by simp⟩
    · rename_i p r hc
      rw [hc] at hflat hle hfull
      refine ⟨p, r, by rw [firstPage, ← (file_spec kind r s).1], hflat, fun q hq => ?_, fun m hm q hq => ?_⟩
      · have hlength := hfull q hq
        exact ⟨by rw [hn, hlength], fun he => by rw [he] at hlength; cases hlength⟩
      · rw [hn, Option.some.injEq] at hm
        rw [← hm]
        exact hle q hq
  · rename_i hsize
    exact ⟨s.found kind filters, [], rfl, by simp, by simp, fun n hn => absurd hn (hsize n)⟩

/-- Every page of a listing taken together: the records that pass the filters. -/
theorem run_listAll (kind : Kind) (filters : Dict String) (s : Store) :
    ∃ t, (Client.listAll kind filters).run s = (.ok (s.found kind filters), t) ∧ s.PagesOnly t := by
  obtain ⟨p, r, hlist, hflat, -, -⟩ := list_spec kind filters s
  obtain ⟨-, hs, -, hf⟩ := file_spec kind r s
  obtain ⟨t, ht, hst⟩ := drain_filed hf (next?_firstPage s.pageCount p r) (isPartial_firstPage s.pageCount p r)
  refine ⟨t, ?_, hs.trans hst⟩
  show Client.drain kind (s.list kind filters).1 (s.list kind filters).2 = _
  rw [hlist, ht, ← hflat]
  rfl

end Store

end MultiCluster
