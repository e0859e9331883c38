/-
The versions of a template, lowest first. Each text is read, and the texts are sorted by the versions they write
(`LowestFirst`): the entries are the texts as they were, each with a version that is before the later ones or the same,
and texts of one version are in the order they had.
-/
import MultiCluster.Proofs.History
import MultiCluster.Proofs.Version.Order
import Mathlib
namespace MultiCluster

variable {versions : List String} {current s : String} {fault : Fault}

/-- The text writes the version. -/
def Version.isWritten (v : Version) (s : String) : Bool := (readVersion s).toOption = some v

theorem Version.isWritten_iff {v : Version} : v.isWritten s = true ↔ readVersion s = .ok v := by
  unfold isWritten
  cases readVersion s <;> simp [Except.toOption]

/-- A text behind its version. -/
def readTagged (s : String) : Except Fault (Version × String) := do return ((← readVersion s), s)

theorem readTagged_eq_ok {p : Version × String} : readTagged s = .ok p ↔ readVersion s = .ok p.1 ∧ p.2 = s := by
  constructor
  · intro h
    obtain ⟨v, hv, ⟨⟩⟩ := bind_eq_ok h
    exact ⟨hv, rfl⟩
  · rintro ⟨hv, rfl⟩
    rw [readTagged, hv]
    rfl

/-- The entries show the texts from the lowest version to the highest. -/
structure LowestFirst (versions : List String) (current : String) (entries : List VersionEntry) : Prop where
  texts : (entries.map (·.version)).Perm versions
  ordered : entries.Pairwise fun e e' =>
    ∀ v v', readVersion e.version = .ok v → readVersion e'.version = .ok v' → v.Before v' ∨ v = v'
  /-- Texts of one version keep their order. -/
  ties : ∀ v : Version, (entries.map (·.version)).filter v.isWritten = versions.filter v.isWritten
  flagged : ∀ e ∈ entries, e.current = true ↔ e.version = current

theorem any_readTagged (v : Version) : (readTagged s).toOption.any (fun p => p.1 = v) = v.isWritten s := by
  unfold readTagged Version.isWritten
  cases readVersion s with
  | error => rfl
  | ok v' => simp [Except.toOption, bind, Except.bind, pure, Except.pure]

theorem sortVersions_sorted {entries : List VersionEntry} (h : sortVersions versions current = .ok entries) :
    LowestFirst versions current entries := by
  obtain ⟨read, hread, ⟨⟩⟩ := bind_eq_ok h
  change versions.mapM readTagged = .ok read at hread
  obtain ⟨shown, hshown, hperm, htagged, hsorted, hties⟩ := exists_sorted (fun p p' : Version × String => p.1.le p'.1)
    (fun p p' p'' => Version.le_trans p.1 p'.1 p''.1) (fun p p' => Version.le_total p.1 p'.1) hread
  have htagged (p) (hp : p ∈ shown) : readVersion p.1 = .ok p.2.1 ∧ p.2.2 = p.1 := readTagged_eq_ok.1 (htagged p hp)
  -- each entry is made of a text that stands beside it
  have htexts : ((shown.map Prod.snd).map fun p => VersionEntry.mk p.2 (p.2 == current)).map (·.version) =
      shown.map Prod.fst := by
    rw [List.map_map, List.map_map]
    exact List.map_congr_left fun p hp => (htagged p hp).2
  rw [← hshown]
  constructor
  · rw [htexts]
    exact hperm
  · rw [List.pairwise_map, List.pairwise_map]
    refine hsorted.imp_of_mem fun {p p'} hp hp' hle v v' hv hv' => ?_
    obtain ⟨hof, htext⟩ := htagged p hp
    obtain ⟨hof', htext'⟩ := htagged p' hp'
    rw [htext, hof] at hv
    rw [htext', hof'] at hv'
    cases hv
    cases hv'
    exact Version.le_iff.1 hle
  · intro v
    have hsame (p : Version × String) (p' : Version × String) (hp : decide (p.1 = v)) (hp' : decide (p'.1 = v)) :
        p.1.le p'.1 := by
      rw [of_decide_eq_true hp, of_decide_eq_true hp']
      exact v.le_self
    have hwritten (p) (hp : p ∈ shown) : v.isWritten p.1 = decide (p.2.1 = v) := by
      rw [Bool.eq_iff_iff, Version.isWritten_iff, (htagged p hp).1]
      simp
    calc _ = (shown.filter fun p => p.2.1 = v).map Prod.fst := by
            rw [htexts, List.filter_map]
            exact congrArg _ (List.filter_congr hwritten)
      _ = versions.filter fun s => (readTagged s).toOption.any fun p => p.1 = v := hties _ hsame
      _ = _ := by simp only [any_readTagged]
  · rw [List.forall_mem_map, List.forall_mem_map]
    simp

end MultiCluster
