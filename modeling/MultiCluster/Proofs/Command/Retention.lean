/-
What an upgrade keeps of an app's answers. They are read off the app under the IDs of their scopes, so
none of them names its scope (`Placed.canonical`), and what is given is laid over them. So an answer that
nothing given addresses is not outdone by any other spelling of it, and one that is given under one
spelling only takes the last value given for it, be that spelling by names or by the ID
(`upgrade_keeps_answers`).
-/
import MultiCluster.Proofs.Answers.RoundTrip
import MultiCluster.Proofs.Command.Precedence
namespace MultiCluster

/-! ## Answers of an app -/

/-- The record is for all scopes, for one cluster or for one project, and its keys read back as those of
its scope. -/
inductive Store.Placed (s : Store) : Answer → Prop
  | global {values : Dict String} : (∀ key ∈ values, ':' ∉ key.toList) → s.Placed { values }
  | cluster {id : String} {c : Cluster} {values : Dict String} : s.get? .cluster id = some c →
      (∀ key ∈ values, ':' ∉ key.toList) → s.Placed { clusterId := c.id, values }
  | project {id : String} {p : Project} {values : Dict String} : s.get? .project id = some p →
      s.Placed { projectId := p.id, values }

/-- The text of a key means `key` in the scope with ID `id`. -/
def Store.Addresses (s : Store) (k id key : String) : Prop :=
  s.scopeId (ScopedKey.parse k) = .ok id ∧ (ScopedKey.parse k).key = key

namespace FlatAnswers

variable {s : Store} {k id key v : String}

/-- The map has the value for `key` in the scope with ID `id`. -/
def Gives (s : Store) (flat : FlatAnswers) (id key v : String) : Prop :=
  ∃ k, s.Addresses k id key ∧ flat.get? k = some v

/-- The entries of a record that is placed have keys in normal form. -/
theorem Placed.canonical (hw : s.WellFormed) {a : Answer} (h : s.Placed a) (hm : (k, v) ∈ entriesOf a) :
    s.Canonical k := by
  obtain ⟨key, hv, rfl⟩ := mem_entriesOf.1 hm
  have hkey : key ∈ a.values := Dict.mem_of_get? hv
  cases h with
  | global hplain => exact .global (hplain key hkey)
  | @cluster cid c values hc hplain =>
    have hspell : spelling c.id key = joinScope c.id key := if_neg (by simpa using (hw.clusterIds cid c hc).1)
    show s.Canonical (spelling c.id key)
    rw [hspell]
    exact .cluster hc (hplain key hkey)
  | @project pid p values hp =>
    have hid : p.id ≠ "" := hw.identified_project pid p hp
    have hne : p.id.isEmpty = false := by simpa using hid
    have hspell : spelling p.id key = joinScope p.id key := if_neg (by simp [hne])
    have hscope : scopeOf { projectId := p.id, values } = p.id := if_neg (by simp [hne])
    rw [hscope, hspell]
    exact .project hp

/-- What is read off placed records has keys in normal form. -/
theorem canonical_of_placed (hw : s.WellFormed) {as : List Answer} (h : ∀ a ∈ as, s.Placed a) (hm : k ∈ ofAnswers as) :
    s.Canonical k := by
  obtain ⟨v, hv⟩ := Dict.mem_iff_exists.1 hm
  rcases Dict.mem_of_get?_insertMany hv with hv | hv
  · obtain ⟨a, ha, hv⟩ := List.mem_flatMap.1 hv
    exact Placed.canonical hw (h a ha) hv
  · cases hv

/-- The records give what they hold. -/
theorem Filled.gives_iff {flat : FlatAnswers} {b : Buckets} (hw : s.WellFormed) (hk : s.Keyed)
    (h : Filled s.scopeIdOf flat.toList b) :
    Gives s (ofAnswers b.toAnswers) id key v ↔ (b.bucket id).get? key = some v := by
  have hspelled : ∀ {id key v}, (b.bucket id).get? key = some v → s.Addresses (spelling id key) id key := by
    intro id key v hv
    obtain ⟨hcan, hscope, hkey⟩ := h.canonical hw (Dict.mem_of_get? hv)
    refine ⟨?_, hkey⟩
    rw [Store.scopeId_eq hw.clusterScripts hw.projectScripts, Canonical.resolves hw hk hcan, hscope]
  constructor
  · rintro ⟨k, ⟨hr, hp⟩, hv⟩
    obtain ⟨id', key', rfl, hv'⟩ := (h.get?_ofAnswers hw).1 hv
    obtain ⟨hr', hp'⟩ := hspelled hv'
    obtain rfl : id = id' := Except.ok.inj (hr.symm.trans hr')
    obtain rfl : key = key' := hp.symm.trans hp'
    exact hv'
  · intro hv
    exact ⟨spelling id key, hspelled hv, (h.get?_ofAnswers hw).2 ⟨id, key, rfl, hv⟩⟩

/-! ## Entries over those of the app -/

section Overlay

variable {seed : FlatAnswers} {given : List (String × String)} (hw : s.WellFormed) (hk : s.Keyed)
variable (hseed : ∀ k ∈ seed, s.Canonical k)
include hw hk hseed

/-- An entry that names its scope is one of those given. -/
theorem Named.mem_given (h : Named s.scopeIdOf (seed.insertMany given).keys id key k) : ∃ e ∈ given, e.1 = k := by
  obtain ⟨v, hv⟩ := Dict.mem_iff_exists.1 (Dict.mem_keys.1 h.mem)
  rcases Dict.mem_of_get?_insertMany hv with hm | hm
  · exact ⟨_, hm, rfl⟩
  · have hr := Canonical.resolves hw hk (hseed k (Dict.mem_of_get? hm))
    exact absurd (Except.ok.inj (hr.symm.trans h.resolves)) h.byName

/-- An entry stands that no entry given spells otherwise. -/
theorem Means.stands (h : Means s.scopeIdOf (seed.insertMany given).keys id key k)
    (honly : ∀ e ∈ given, s.Addresses e.1 id key → e.1 = k) :
    Stands s.scopeIdOf (seed.insertMany given).keys id key k := by
  refine ⟨h, fun k' hm hname => ?_⟩
  obtain ⟨e, he, rfl⟩ := Named.mem_given hw hk hseed ⟨hm, hname⟩
  have haddress : s.Addresses e.1 id key := by
    rw [Store.Addresses, Store.scopeId_eq hw.clusterScripts hw.projectScripts]
    exact ⟨hm.resolves, hm.part⟩
  obtain rfl := honly e he haddress
  exact ⟨hname, String.le_refl _⟩

section Filled

variable {b : Buckets} (hb : Filled s.scopeIdOf (seed.insertMany given).toList b)
include hb

/-- What nothing given addresses is what the app gave. -/
theorem Filled.gives_kept (hnone : ∀ e ∈ given, ¬ s.Addresses e.1 id key) :
    Gives s (ofAnswers b.toAnswers) id key v ↔ Gives s seed id key v := by
  have hs := Store.scopeId_eq hw.clusterScripts hw.projectScripts
  have hget : ∀ {k}, s.Addresses k id key → (seed.insertMany given).get? k = seed.get? k := fun ha =>
    Dict.get?_insertMany_of_not_mem fun e he heq => hnone e he (heq ▸ ha)
  rw [hb.gives_iff hw hk, hb.get?_bucket_iff (globalIsEmpty hw.identified_cluster hw.identified_project)]
  constructor
  · rintro ⟨k, hst, hv⟩
    have ha : s.Addresses k id key := ⟨by rw [hs]; exact hst.resolves, hst.part⟩
    exact ⟨k, ha, by rw [← hget ha, hv]⟩
  · rintro ⟨k, ha, hv⟩
    rw [← hget ha] at hv
    have hm : Means s.scopeIdOf (seed.insertMany given).keys id key k :=
      ⟨Dict.mem_keys.2 (Dict.mem_of_get? hv), by rw [← hs]; exact ha.1, ha.2⟩
    exact ⟨k, Means.stands hw hk hseed hm fun e he hae => absurd hae (hnone e he), hv⟩

/-- What is given under one spelling only has the last value given for it. -/
theorem Filled.gives_given {earlier later : List (String × String)} (hsplit : given = earlier ++ (k, v) :: later)
    (hlater : ∀ e ∈ later, e.1 ≠ k) (ha : s.Addresses k id key) (honly : ∀ e ∈ given, s.Addresses e.1 id key → e.1 = k)
    (v' : String) : Gives s (ofAnswers b.toAnswers) id key v' ↔ v' = v := by
  have hg := globalIsEmpty hw.identified_cluster hw.identified_project
  have hv : (seed.insertMany given).get? k = some v := by
    rw [hsplit, Dict.insertMany_append, Dict.insertMany_cons, Dict.get?_insertMany_of_not_mem hlater,
      Dict.get?_insert_self]
  have hm : Means s.scopeIdOf (seed.insertMany given).keys id key k := by
    refine ⟨Dict.mem_keys.2 (Dict.mem_of_get? hv), ?_, ha.2⟩
    rw [← Store.scopeId_eq hw.clusterScripts hw.projectScripts]
    exact ha.1
  have hst := Means.stands hw hk hseed hm honly
  rw [hb.gives_iff hw hk, hb.get?_bucket_iff hg]
  constructor
  · rintro ⟨k', hst', hv'⟩
    obtain rfl := hst.unique hg hst'
    exact Option.some.inj (hv'.symm.trans hv)
  · rintro rfl
    exact ⟨k, hst, hv⟩

end Filled

end Overlay

end FlatAnswers

/-! ## The command -/

namespace AnswerSources

/-- The entries that the sources give, in the order in which they override each other. -/
def given (files : Files) (sources : AnswerSources) : Except CommandFault (List (String × String)) := do
  let answers ← fromFile files "answers" parseAnswers sources.answers
  let values ← fromFile files "values" parseValues sources.values
  let settings ← sources.settings.mapM parseSetting
  return answers.toList ++ values.toList ++ settings

theorem collect_eq_ok {files : Files} {seed collected : FlatAnswers} {sources : AnswerSources}
    (h : collect files seed sources = .ok collected) :
    ∃ entries, given files sources = .ok entries ∧ collected = seed.insertMany entries := by
  obtain ⟨answers, hanswers, h⟩ := bind_eq_ok h
  obtain ⟨values, hvalues, h⟩ := bind_eq_ok h
  obtain ⟨settings, hsettings, h⟩ := bind_eq_ok h
  cases h
  refine ⟨answers.toList ++ values.toList ++ settings, ?_, by rw [Dict.insertMany_append, Dict.insertMany_append]⟩
  rw [given, hanswers, hvalues, hsettings]
  rfl

end AnswerSources

/-- A lookup on a store without scripts finds what is stored. -/
theorem Store.get?_of_run_lookup {s : Store} (hk : s.Keyed) {kind : Kind} (hu : s.Unscripted kind) {reference : String}
    {filters : Dict String} {r : kind.Record} (h : ((Client.lookup kind reference filters).run s).1 = .ok r) :
    s.get? kind (kind.id r) = some r := by
  obtain ⟨t, hrun, -⟩ := run_lookup (hu reference) filters
  rw [hrun] at h
  exact (lookedUp_eq_ok hk h).2.1

open FlatAnswers (Gives ofAnswers)

/-- A successful upgrade on a well-formed directory keeps what the app's answers give for any key of any
scope that no entry given addresses, be it a value or none; and where the entries that address it are all
under one spelling, the app then gives the value of the last of them. -/
theorem upgrade_keeps_answers {s : Store} (hr : s.Reachable) (hw : s.WellFormed) (hu : s.Unscripted .app)
    {files : Files} {config : Config} {i : Invocation} {r : UpgradeRequest} {app : App} {c c' : Console Store}
    (hclient : c.session.client = s) (hcmd : i.command = some (.upgrade r)) (hv : r.showVersions = false)
    (hfound : ((Client.lookup .app r.app ∅).run s).1 = .ok app) (hplaced : ∀ a ∈ app.answers, s.Placed a)
    (hrun : (i.run files config).run c = (.ok (), c')) :
    ∃ given app', AnswerSources.given files r.sources = .ok given ∧ s.get? .app app.id = some app ∧
      c'.session.client.get? .app app.id = some app' ∧ c'.session.client.log = s.log ++ [.updated .app app'] ∧
      ∀ id key,
        ((∀ e ∈ given, ¬ s.Addresses e.1 id key) →
          ∀ v, Gives s (ofAnswers app'.answers) id key v ↔ Gives s (ofAnswers app.answers) id key v) ∧
        ∀ earlier k v later, given = earlier ++ (k, v) :: later → (∀ e ∈ later, e.1 ≠ k) → s.Addresses k id key →
          (∀ e ∈ given, s.Addresses e.1 id key → e.1 = k) →
          ∀ v', Gives s (ofAnswers app'.answers) id key v' ↔ v' = v := by
  subst hclient
  have hk := hr.keyed
  have hs : Session.Sound c.session.client c.session.renew :=
    Session.sound_fresh (.refl hw.clusterScripts hw.projectScripts)
  rw [Invocation.run, hcmd, Attempt.run_bind_ok (Attempt.run_modify _ _)] at hrun
  obtain ⟨app', b, flat, hlookup, hid, hcollect, hfill, hlog, hstored⟩ :=
    Console.run_upgrade_eq_ok (c := { c with session := c.session.renew }) hs hv hrun
  rw [Session.lookup_eq_onClient, Session.run_onClient] at hlookup
  obtain rfl : app = b := Except.ok.inj (hfound.symm.trans hlookup)
  obtain ⟨given, hgiven, rfl⟩ := AnswerSources.collect_eq_ok hcollect
  obtain ⟨buckets, hbuckets, hanswers⟩ := map_eq_ok hfill
  have hfilled := FlatAnswers.filled_of_ok hw.identified_cluster hw.identified_project hbuckets
  have hseed : ∀ k ∈ ofAnswers app.answers, c.session.client.Canonical k := fun k hm =>
    FlatAnswers.canonical_of_placed hw hplaced hm
  refine ⟨given, app', hgiven, Store.get?_of_run_lookup hk hu hfound, hid ▸ hstored, hlog, fun id key => ?_⟩
  rw [← hanswers]
  constructor
  · intro hnone v
    exact hfilled.gives_kept hw hk hseed hnone
  · intro earlier k v later hsplit hlater ha honly v'
    exact hfilled.gives_given hw hk hseed hsplit hlater ha honly v'

/-! ## An app with answers of all scopes -/

theorem wellFormed_kioskStore : App.kioskStore.WellFormed :=
  Store.WellFormed.prodWeb.congr ⟨rfl, rfl, Store.unscripted_ofRecords .cluster, Store.unscripted_ofRecords .project⟩

theorem placed_kiosk : ∀ a ∈ App.kiosk.answers, App.kioskStore.Placed a := by
  have hcluster : App.kioskStore.get? .cluster "c-1" = some ⟨"c-1", "prod"⟩ := rfl
  have hproject : App.kioskStore.get? .project "c-1:p-1" = some ⟨"c-1:p-1", "web", "c-1"⟩ := rfl
  have hplain : ∀ {k v : String}, ':' ∉ k.toList → ∀ key ∈ Dict.ofList [(k, v)], ':' ∉ key.toList := by
    intro k v hk key hm
    obtain rfl := List.mem_singleton.1 (Dict.mem_keys.2 hm : key ∈ [k])
    exact hk
  intro a ha
  simp only [App.kiosk, List.mem_cons, List.not_mem_nil, or_false] at ha
  rcases ha with rfl | rfl | rfl
  · exact .global (hplain (by decide))
  · exact .cluster hcluster (hplain (by decide))
  · exact .project hproject

def upgradeKiosk : UpgradeRequest :=
  { app := "kiosk", version := some "1.1.0", sources := { settings := ["prod:size=2"] } }

/-- A setting for the cluster changes its answer; all others stay. -/
theorem upgrade_keeps_answers_kiosk :
    ∃ c' app', (({ command := some (.upgrade upgradeKiosk) } : Invocation).run noFiles {}).run
        ({ session := { client := App.kioskStore } } : Console Store) = (.ok (), c') ∧
      c'.session.client.get? .app "a-1" = some app' ∧
      (∀ id key, key ≠ "size" → ∀ v, Gives App.kioskStore (ofAnswers app'.answers) id key v ↔
        Gives App.kioskStore (ofAnswers App.kiosk.answers) id key v) ∧
      ∀ v, Gives App.kioskStore (ofAnswers app'.answers) "c-1" "size" v ↔ v = "2" := by
  have hrun : (({ command := some (.upgrade upgradeKiosk) } : Invocation).run noFiles {}).run
      ({ session := { client := App.kioskStore } } : Console Store) = (.ok (), _) := Prod.ext (by cbv) rfl
  have hunscripted : App.kioskStore.Unscripted .app := Store.unscripted_ofRecords .app
  have hfound : ((Client.lookup .app upgradeKiosk.app ∅).run App.kioskStore).1 = Except.ok App.kiosk := by cbv
  obtain ⟨given, app', hgiven, -, hstored, -, h⟩ := upgrade_keeps_answers App.reachable_kioskStore wellFormed_kioskStore
    hunscripted rfl rfl rfl hfound placed_kiosk hrun
  obtain rfl : given = [("prod:size", "2")] := Except.ok.inj (hgiven.symm.trans (by cbv))
  have hprod : App.kioskStore.Addresses "prod:size" "c-1" "size" := ⟨by cbv, by cbv⟩
  refine ⟨_, app', hrun, hstored, ?_, (h "c-1" "size").2 [] "prod:size" "2" [] rfl (by simp) hprod ?_⟩
  · intro id key hne
    refine (h id key).1 fun e he ha => ?_
    rw [List.mem_singleton.1 he] at ha
    exact hne (ha.2.symm.trans (by cbv))
  · intro e he _
    rw [List.mem_singleton.1 he]

end MultiCluster
