/-
What a reference stands for among the records of a store, read off the records one by one: a record
passes filters when each of its named texts is the one asked for (`matchesAll_insert`), and a lookup
finds a record when it is the only one of that name, or has that ID where none has the name
(`lookedUp_eq_ok`). Records lie under their own IDs (`Keyed`), so none is met twice.
-/
import MultiCluster.Proofs.Record.Wire
import MultiCluster.Proofs.Store.Reading
namespace MultiCluster

/-! ## Filters -/

namespace Kind

theorem matchesAll_iff {k : Kind} {filters : Dict String} {r : k.Record} :
    k.matchesAll filters r = true ↔ ∀ f v, filters.get? f = some v → k.textAt r f = some v := by
  simp [matchesAll, Dict.get?_eq_some_iff]

theorem matchesAll_insert {k : Kind} {filters : Dict String} {f v : String} {r : k.Record} :
    k.matchesAll (filters.insert f v) r = true ↔
      k.textAt r f = some v ∧ ∀ f' v', f ≠ f' → filters.get? f' = some v' → k.textAt r f' = some v' := by
  simp only [matchesAll_iff, Dict.get?_insert]
  constructor
  · exact fun h => ⟨h f v (by simp), fun f' v' hne hf => h f' v' (by simpa [hne] using hf)⟩
  · rintro ⟨h, hr⟩ f' v' hf
    split at hf
    · rename_i he
      cases hf
      exact he ▸ h
    · rename_i hne
      exact hr f' v' hne hf

theorem textAt_cluster_name (c : Cluster) : Kind.textAt .cluster c "name" = some c.name := by
  simp [textAt, toJson, Cluster.toJson, Wire.member?_object, Json.text?]

theorem textAt_project_name (p : Project) : Kind.textAt .project p "name" = some p.name := by
  simp [textAt, toJson, Project.toJson, Wire.member?_object, Json.text?]

theorem textAt_project_clusterId (p : Project) : Kind.textAt .project p "clusterId" = some p.clusterId := by
  simp [textAt, toJson, Project.toJson, Wire.member?_object, Json.text?]

theorem textAt_revision_name (r : Revision) : Kind.textAt .revision r "name" = some r.name := by
  simp [textAt, toJson, Revision.toJson, Wire.member?_object, Json.text?]

theorem textAt_app_name (a : App) : Kind.textAt .app a "name" = some a.name := by
  simp [textAt, toJson, App.toJson, Wire.member?_object, Json.text?]

/-- The records of a name, where a record has one. -/
theorem matchesAll_name {k : Kind} {r : k.Record} {name n : String} (h : k.textAt r "name" = some name) :
    k.matchesAll ((∅ : Dict String).insert "name" n) r = true ↔ name = n := by
  simp [matchesAll_insert, h]

theorem matchesAll_cluster_name {n : String} {c : Cluster} :
    Kind.matchesAll .cluster ((∅ : Dict String).insert "name" n) c = true ↔ c.name = n :=
  matchesAll_name (textAt_cluster_name c)

theorem matchesAll_project_name {n : String} {p : Project} :
    Kind.matchesAll .project ((∅ : Dict String).insert "name" n) p = true ↔ p.name = n :=
  matchesAll_name (textAt_project_name p)

theorem matchesAll_revision_name {n : String} {r : Revision} :
    Kind.matchesAll .revision ((∅ : Dict String).insert "name" n) r = true ↔ r.name = n :=
  matchesAll_name (textAt_revision_name r)

/-- The projects of a name in a cluster. -/
theorem matchesAll_project_in {n c : String} {p : Project} :
    Kind.matchesAll .project ((Dict.empty.insert "clusterId" c).insert "name" n) p = true ↔
      p.name = n ∧ p.clusterId = c := by
  rw [matchesAll_insert, textAt_project_name, Option.some.injEq]
  refine and_congr_right fun _ => ⟨fun h => ?_, ?_⟩
  · have := h "clusterId" c (by decide) (Dict.get?_insert_self ..)
    rwa [textAt_project_clusterId, Option.some.injEq] at this
  · rintro rfl f v - hf
    rw [Dict.get?_insert] at hf
    split at hf
    · rename_i he
      cases hf
      exact he ▸ textAt_project_clusterId p
    · cases hf

end Kind

namespace Store

/-! ## Records under their IDs -/

/-- Every record lies under its own ID. -/
def Keyed (s : Store) : Prop := ∀ kind id r, s.get? kind id = some r → kind.id r = id

/-- No record of the kind has an empty ID. -/
def Identified (kind : Kind) (s : Store) : Prop := ∀ id r, s.get? kind id = some r → kind.id r ≠ ""

variable {s : Store} {kind : Kind} {filters : Dict String} {reference : String} {r : kind.Record}

theorem Keyed.get?_id (hk : s.Keyed) {id : String} (h : s.get? kind id = some r) :
    s.get? kind (kind.id r) = some r := by
  rw [hk kind id r h, h]

/-- Records of one kind with one ID are the same. -/
theorem Keyed.eq_of_id (hk : s.Keyed) {id id' : String} {r' : kind.Record} (hr : s.get? kind id = some r)
    (hr' : s.get? kind id' = some r') (h : kind.id r = kind.id r') : r = r' :=
  Option.some.inj (by rw [← hk.get?_id hr, h, hk.get?_id hr'])

theorem mem_found (hk : s.Keyed) :
    r ∈ s.found kind filters ↔ s.get? kind (kind.id r) = some r ∧ kind.matchesAll filters r = true := by
  simp only [found, Dict.values, List.mem_filter, List.mem_map, Prod.exists, exists_eq_right]
  refine and_congr_left fun _ => ⟨?_, fun h => ⟨_, Dict.get?_eq_some_iff.1 h⟩⟩
  rintro ⟨id, h⟩
  have hg : s.get? kind id = some r := Dict.get?_eq_some_iff.2 h
  rw [hk kind id r hg]
  exact hg

/-- Listings come in the order of the IDs. -/
theorem ascending_found (hk : s.Keyed) : ((s.found kind filters).map kind.id).Pairwise (· < ·) := by
  have h : ((s.records.get kind).toList.map Prod.snd).Pairwise fun a b => kind.id a < kind.id b := by
    refine List.pairwise_map.2 ((s.records.get kind).ascending.imp_of_mem fun {a b} ha hb hlt => ?_)
    rw [hk kind a.1 a.2 (Dict.get?_eq_some_iff.2 ha), hk kind b.1 b.2 (Dict.get?_eq_some_iff.2 hb)]
    exact hlt
  exact List.pairwise_map.2 (h.filter _)

theorem nodup_found (hk : s.Keyed) : (s.found kind filters).Nodup :=
  (ascending_found hk).of_map kind.id fun _ _ hlt he => String.lt_irrefl _ (he ▸ hlt)

/-! ## Lookups -/

/-- Whatever is found is a record of the store. -/
theorem exists_get?_of_lookedUp (h : s.lookedUp kind reference filters = .ok r) : ∃ id, s.get? kind id = some r := by
  unfold lookedUp at h
  split at h
  · cases h
  match hf : s.found kind (filters.insert "name" reference), h with
  | [], h =>
    cases hg : s.get? kind reference with
    | none => rw [hg] at h; cases h
    | some r' =>
      rw [hg] at h
      cases h
      exact ⟨reference, hg⟩
  | [r'], h =>
    cases h
    have hm : r ∈ s.found kind (filters.insert "name" reference) := by simp [hf]
    obtain ⟨e, he, rfl⟩ := List.mem_map.1 (List.mem_filter.1 hm).1
    exact ⟨e.1, Dict.get?_eq_some_iff.2 he⟩

/-- The only record of that name is found. -/
theorem lookedUp_of_unique (hk : s.Keyed) (hne : reference ≠ "") (hr : s.get? kind (kind.id r) = some r)
    (hm : kind.matchesAll (filters.insert "name" reference) r = true)
    (hu : ∀ r', s.get? kind (kind.id r') = some r' →
      kind.matchesAll (filters.insert "name" reference) r' = true → r' = r) :
    s.lookedUp kind reference filters = .ok r := by
  have hf : s.found kind (filters.insert "name" reference) = [r] := by
    refine List.perm_singleton.1 ((List.perm_ext_iff_of_nodup (nodup_found hk) (by simp)).2 fun r' => ?_)
    rw [mem_found hk, List.mem_singleton]
    exact ⟨fun h => hu r' h.1 h.2, by rintro rfl; exact ⟨hr, hm⟩⟩
  rw [lookedUp, if_neg (by simpa using hne), hf]

/-- Where no record has the name the ID decides. -/
theorem lookedUp_of_unnamed (hk : s.Keyed) (hne : reference ≠ "")
    (hn : ∀ r, s.get? kind (kind.id r) = some r → ¬ kind.matchesAll (filters.insert "name" reference) r = true) :
    s.lookedUp kind reference filters = (s.get? kind reference).elim (.error (.notFound kind reference)) .ok := by
  have hf : s.found kind (filters.insert "name" reference) = [] :=
    List.eq_nil_iff_forall_not_mem.2 fun r hr => hn r ((mem_found hk).1 hr).1 ((mem_found hk).1 hr).2
  rw [lookedUp, if_neg (by simpa using hne), hf]

/-- What is found is a record that is the only one of that name, or has that ID where none has the
name. -/
theorem lookedUp_eq_ok (hk : s.Keyed) (h : s.lookedUp kind reference filters = .ok r) :
    reference ≠ "" ∧ s.get? kind (kind.id r) = some r ∧
      ((∀ r', s.get? kind (kind.id r') = some r' →
          (kind.matchesAll (filters.insert "name" reference) r' = true ↔ r' = r)) ∨
        (kind.id r = reference ∧ ∀ r', s.get? kind (kind.id r') = some r' →
          ¬ kind.matchesAll (filters.insert "name" reference) r' = true)) := by
  have hmem : ∀ r', r' ∈ s.found kind (filters.insert "name" reference) ↔ _ := fun r' => mem_found hk
  unfold lookedUp at h
  split at h
  · cases h
  rename_i hne
  refine ⟨by simpa using hne, ?_⟩
  match hf : s.found kind (filters.insert "name" reference), h with
  | [], h =>
    rw [hf] at hmem
    cases hg : s.get? kind reference with
    | none => rw [hg] at h; cases h
    | some r' =>
      rw [hg] at h
      cases h
      have hid := hk kind reference r hg
      refine ⟨hid ▸ hg, .inr ⟨hid, fun r' hr' hm => ?_⟩⟩
      exact List.not_mem_nil ((hmem r').2 ⟨hr', hm⟩)
  | [r'], h =>
    cases h
    rw [hf] at hmem
    refine ⟨((hmem r).1 (by simp)).1, .inl fun r' hr' => ⟨fun hm => ?_, ?_⟩⟩
    · exact List.mem_singleton.1 ((hmem r').2 ⟨hr', hm⟩)
    · rintro rfl
      exact ((hmem r').1 (by simp)).2

end Store

end MultiCluster
