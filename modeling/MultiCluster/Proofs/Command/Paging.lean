/-
The size of pages cannot be observed. Stores that differ in it, and in how many pages were numbered so
far, give the same whole listings and answer every other call alike (`Store.agrees_repaged`), and commands
ask for listings as a whole; so they end alike on such stores, one after the other
(`pageSize_unobservable`).
-/
import MultiCluster.Proofs.Command.Agreement
import MultiCluster.Proofs.Store.Pages
import Mathlib
namespace MultiCluster

namespace Store

/-- The second store differs from the first in the size of its pages and in their count. -/
structure Repaged (s t : Store) : Prop where
  same : ∃ size count, t = s.repage size s.pages count
  fresh : s.Fresh
  fresh' : t.Fresh

variable {s t : Store}

/-- A page is handed out alike whatever the size of others and their count. -/
theorem next_repage (kind : Kind) (page : Page kind.Record) (size : Option Nat) (count : Nat) (s : Store) :
    (s.repage size s.pages count).next kind page =
      ((s.next kind page).1, (s.next kind page).2.repage size (s.next kind page).2.pages count) := by
  have hpages : (s.repage size s.pages count).pages = s.pages := rfl
  unfold next
  split
  · rfl
  · rw [hpages]
    split
    · rfl
    · dsimp only
      split <;> rfl

theorem Repaged.next (h : s.Repaged t) (kind : Kind) (page : Page kind.Record) :
    (s.next kind page).1 = (t.next kind page).1 ∧ (s.next kind page).2.Repaged (t.next kind page).2 := by
  obtain ⟨size, count, rfl⟩ := h.same
  have hnext := next_repage kind page size count s
  have hfresh : ((s.repage size s.pages count).next kind page).2.Fresh := h.fresh'.answered (.next kind page)
  refine ⟨by rw [hnext], ⟨size, count, by rw [hnext]⟩, h.fresh.answered (.next kind page), hfresh⟩

theorem agrees_repaged : Client.Agrees Repaged where
  listAll kind filters s t h := by
    obtain ⟨m, hm, hs⟩ := run_listAll_of_fresh h.fresh kind filters
    obtain ⟨n, hn, ht⟩ := run_listAll_of_fresh h.fresh' kind filters
    obtain ⟨size, count, rfl⟩ := h.same
    rw [hs, ht]
    exact ⟨rfl, ⟨size, n, rfl⟩, h.fresh.skip hm, h.fresh'.skip hn⟩
  drain kind := Client.agree_drain fun page _ _ h => h.next kind page
  answer c hc s t h := by
    obtain ⟨size, count, rfl⟩ := h.same
    have hanswer := answer_repage hc size s.pages count (s := s)
    have hfresh := h.fresh'.answered c
    rw [hanswer] at hfresh ⊢
    refine ⟨rfl, ⟨size, count, ?_⟩, h.fresh.answered c, hfresh⟩
    rw [(pages_answer hc s).1]

end Store

/-! ## Runs -/

/-- On stores that differ in the size of their pages any command lines give the same results, outputs and
prompts, and they leave the same records, scripts, counts of fetches, links, counts of IDs and logs. -/
theorem pageSize_unobservable {s : Store} (hs : s.Reachable) (size : Option Nat) (runs : List Surroundings) :
    let t := { s with pageSize := size }
    let s' := (Surroundings.serveAll runs s).2
    let t' := (Surroundings.serveAll runs t).2
    (Surroundings.serveAll runs s).1 = (Surroundings.serveAll runs t).1 ∧ t'.records = s'.records ∧
      t'.scripts = s'.scripts ∧ t'.fetches = s'.fetches ∧ t'.links = s'.links ∧ t'.idCount = s'.idCount ∧
      t'.log = s'.log := by
  intro t s' t'
  have ht : t.Fresh := ⟨hs.fresh.free, hs.fresh.unlinked⟩
  obtain ⟨hresults, ⟨size', count, hsame⟩, -, -⟩ :=
    Surroundings.agree_serveAll Store.agrees_repaged runs ⟨⟨size, s.pageCount, rfl⟩, hs.fresh, ht⟩
  have hend : t' = s'.repage size' s'.pages count := hsame
  rw [hend]
  exact ⟨hresults, rfl, rfl, rfl, rfl, rfl, rfl⟩

/-- Two apps of one name. -/
def shops : Store := Store.insertAll .app [{ id := "a-1", name := "shop" }, { id := "a-2", name := "shop" }] {}

/-- A command line that asks for the app of that name to be deleted. -/
def deletion : Surroundings :=
  { files := ⟨fun _ => .error .missing⟩, words := ["--server", "http://h", "delete", "shop"] }

/-- Whether or not the two come on pages of their own, both are told of. -/
theorem pageSize_unobservable_shops :
    shops.Reachable ∧ (Surroundings.serveAll [deletion] { shops with pageSize := some 1 }).1.map RunResult.complaint =
      [some (.failure (.api (.ambiguous .app "shop" ["a-1", "a-2"])))] := by
  have hreachable : shops.Reachable := Store.reachable_insertAll .empty
  refine ⟨hreachable, ?_⟩
  obtain ⟨hresults, -⟩ := pageSize_unobservable hreachable (some 1) [deletion]
  rw [← hresults]
  have hparse : Invocation.parse deletion.environment deletion.words =
      .ok { server := some "http://h", command := some (.delete ["shop"]) } := by cbv
  have hconfig : Invocation.resolveConfig deletion.files deletion.home
      { server := some "http://h", command := some (.delete ["shop"]) } = .ok { serverUrl := "http://h" } := rfl
  have hrun : (Invocation.run deletion.files { serverUrl := "http://h" }
      { server := some "http://h", command := some (.delete ["shop"]) }).run
        { session := { client := shops }, terminal := { input := deletion.input } } =
      (.error (.api (.ambiguous .app "shop" ["a-1", "a-2"])), _) := Prod.ext (by cbv) rfl
  rw [Surroundings.serveAll, Surroundings.serve_of_ok hparse hconfig shops hrun]
  rfl

end MultiCluster
