/-
The same upgrade twice. The second run starts from the answers that the first one stored, which spell their scopes by
IDs, and lays the same entries over them. What some entry given addresses has the value of the entry that stands for
it, whatever it is laid over, and all else is kept, so the records of the answers come out the same
(`fillWith_again`). So do the version and the targets: an upgrade that succeeded proposes the app that it stored
(`Store.proposed_again`), and running it once more changes nothing (`upgrade_idempotent`).
-/
import MultiCluster.Proofs.Command.Retention
import MultiCluster.Proofs.Command.Versions
import MultiCluster.Proofs.Lifecycle.Versioning
namespace MultiCluster

/-- What lies under a key that is inserted does not depend on what was there before. -/
theorem Dict.exists_get?_insertMany {α : Type} {l : List (String × α)} {k : String} (h : ∃ e ∈ l, e.1 = k) :
    ∃ v, ∀ d : Dict α, (d.insertMany l).get? k = some v := by
  induction l with
  | nil => simp at h
  | cons e l ih =>
    by_cases hl : ∃ e ∈ l, e.1 = k
    · obtain ⟨v, hv⟩ := ih hl
      exact ⟨v, fun d => hv (d.insert e.1 e.2)⟩
    · obtain ⟨e', he', rfl⟩ := h
      have hnone : ∀ e ∈ l, e.1 ≠ e'.1 := fun e he hek => hl ⟨e, he, hek⟩
      obtain rfl : e' = e := (List.mem_cons.1 he').resolve_right fun hm => hnone e' hm rfl
      refine ⟨e'.2, fun d => ?_⟩
      rw [insertMany_cons, get?_insertMany_of_not_mem hnone, get?_insert_self]

/-! ## The same entries over other answers -/

namespace FlatAnswers

variable {s : Store} {id key : String} {seed : FlatAnswers} {given : List (String × String)} {b b' : Buckets}
variable (hw : s.WellFormed) (hk : s.Keyed)
include hw hk

/-- Where some entry given addresses an answer, one of them stands for it, whatever they are laid over: the one that
names the scope, or else the one that spells it by the ID. -/
theorem exists_stands_of_given (h : ∃ e ∈ given, s.Addresses e.1 id key) :
    ∃ k v, ∀ seed : FlatAnswers, (∀ k ∈ seed, s.Canonical k) →
      Stands s.scopeIdOf (seed.insertMany given).keys id key k ∧ (seed.insertMany given).get? k = some v := by
  have hs := Store.scopeId_eq hw.clusterScripts hw.projectScripts
  have hmeans : ∀ e ∈ given, s.Addresses e.1 id key → ∃ v, ∀ seed : FlatAnswers,
      Means s.scopeIdOf (seed.insertMany given).keys id key e.1 ∧ (seed.insertMany given).get? e.1 = some v := by
    intro e he ⟨hresolves, hpart⟩
    obtain ⟨v, hv⟩ := Dict.exists_get?_insertMany ⟨e, he, rfl⟩
    exact ⟨v, fun seed => ⟨⟨Dict.mem_keys.2 (Dict.mem_of_get? (hv seed)), hs ▸ hresolves, hpart⟩, hv seed⟩⟩
  by_cases hnamed : ∃ e ∈ given, s.Addresses e.1 id key ∧ (ScopedKey.parse e.1).scope ≠ id
  · obtain ⟨e, he, haddress, hscope⟩ := hnamed
    obtain ⟨v, hv⟩ := hmeans e he haddress
    exact ⟨e.1, v, fun seed _ => ⟨Named.stands hw hk ⟨(hv seed).1, hscope⟩, (hv seed).2⟩⟩
  · obtain ⟨e, he, haddress⟩ := h
    obtain ⟨v, hv⟩ := hmeans e he haddress
    refine ⟨e.1, v, fun seed hseed => ⟨⟨(hv seed).1, fun k' hmeans' hscope => ?_⟩, (hv seed).2⟩⟩
    obtain ⟨e', he', rfl⟩ := Named.mem_given hw hk hseed ⟨hmeans', hscope⟩
    exact absurd ⟨e', he', ⟨hs ▸ hmeans'.resolves, hmeans'.part⟩, hscope⟩ hnamed

/-- Laid over the answers that they made, the same entries fill the same buckets. -/
theorem Filled.eq_of_overlay (hseed : ∀ k ∈ seed, s.Canonical k)
    (hb : Filled s.scopeIdOf (seed.insertMany given).toList b)
    (hb' : Filled s.scopeIdOf ((ofAnswers b.toAnswers).insertMany given).toList b') : b' = b := by
  have hg := globalIsEmpty hw.identified_cluster hw.identified_project
  have hcanonical : ∀ k ∈ ofAnswers b.toAnswers, s.Canonical k := fun k => hb.canonical_ofAnswers hw
  refine buckets_ext hb'.nonempty hb.nonempty fun id key v => ?_
  by_cases h : ∃ e ∈ given, s.Addresses e.1 id key
  · obtain ⟨k, v₀, hstands⟩ := exists_stands_of_given hw hk h
    have hvalue : ∀ {seed : FlatAnswers} {b : Buckets}, (∀ k ∈ seed, s.Canonical k) →
        Filled s.scopeIdOf (seed.insertMany given).toList b → (b.bucket id).get? key = some v₀ := fun hseed hb =>
      (hb.get?_bucket_iff hg).2 ⟨k, hstands _ hseed⟩
    rw [hvalue hcanonical hb', hvalue hseed hb]
  · have hnone : ∀ e ∈ given, ¬ s.Addresses e.1 id key := fun e he haddress => h ⟨e, he, haddress⟩
    rw [← hb'.gives_iff hw hk, hb'.gives_kept hw hk hcanonical hnone, hb.gives_iff hw hk]

/-- Filling once more succeeds, and comes to the same. -/
theorem fillWith_again (hseed : ∀ k ∈ seed, s.Canonical k)
    (h : fillWith s.scopeIdOf (seed.insertMany given).toList ∅ = .ok b) :
    fillWith s.scopeIdOf ((ofAnswers b.toAnswers).insertMany given).toList ∅ = .ok b := by
  have hfilled := filled_of_ok hw.identified_cluster hw.identified_project h
  have hresolves : ∀ k ∈ ((ofAnswers b.toAnswers).insertMany given).keys, ∃ id, s.scopeIdOf (ScopedKey.parse k) =
      .ok id := by
    intro k hmem
    by_cases hgiven : ∃ e ∈ given, e.1 = k
    · -- the first time the entry was resolved as well
      obtain ⟨v, hv⟩ := Dict.exists_get?_insertMany hgiven
      exact exists_fillWith_iff.1 ⟨b, h⟩ k (Dict.mem_keys.2 (Dict.mem_of_get? (hv seed)))
    · obtain ⟨v, hv⟩ := Dict.mem_iff_exists.1 (Dict.mem_keys.1 hmem)
      rw [Dict.get?_insertMany_of_not_mem fun e he hek => hgiven ⟨e, he, hek⟩] at hv
      exact ⟨_, Canonical.resolves hw hk (hfilled.canonical_ofAnswers hw (Dict.mem_of_get? hv))⟩
  obtain ⟨b', hb'⟩ := (exists_fillWith_iff (b := ∅)).2 hresolves
  have hfilled' := filled_of_ok hw.identified_cluster hw.identified_project hb'
  rw [hb', hfilled.eq_of_overlay hw hk hseed hfilled']

end FlatAnswers

/-! ## The app that was stored -/

namespace Store

variable {s t : Store} {app a : App} {flat : FlatAnswers} {version : String} {specifiers : List String}

/-- Storing a record once more changes nothing. -/
theorem get?_replayed_updated {kind kind' : Kind} {r : kind.Record} (h : s.get? kind (kind.id r) = some r)
    (id : String) : (s.replayed (.updated kind r)).get? kind' id = s.get? kind' id := by
  show (s.insert kind r).get? kind' id = s.get? kind' id
  rw [get?_insert]
  split
  · rename_i hkind
    subst hkind
    split
    · rename_i hid
      rw [← hid, h]
    · rfl
  · rfl

/-- An app that takes the place of another one of its name is found as that one was. -/
theorem lookedUp_insert_app (hk : s.Keyed) {reference : String} (h : s.lookedUp .app reference ∅ = .ok app)
    (hid : a.id = app.id) (hname : a.name = app.name) : (s.insert .app a).lookedUp .app reference ∅ = .ok a := by
  have hk' : (s.insert .app a).Keyed := hk.insert .app a
  have hself : (s.insert .app a).get? .app a.id = some a := get?_insert_self .app a s
  have hmatch : ∀ b : App, Kind.matchesAll .app ((∅ : Dict String).insert "name" reference) b = true ↔
      b.name = reference :=
    fun b => Kind.matchesAll_name (Kind.textAt_app_name b)
  have hother : ∀ b : App, (s.insert .app a).get? .app b.id = some b →
      b = a ∨ (b.id ≠ app.id ∧ s.get? .app b.id = some b) := by
    intro b hb
    by_cases hbid : b.id = a.id
    · exact .inl (hk'.eq_of_id hb hself hbid)
    · rw [get?_insert_of_ne fun h => hbid (congrArg Prod.snd h).symm] at hb
      exact .inr ⟨hid ▸ hbid, hb⟩
  obtain ⟨hne, hstored, hunique | ⟨hreference, hunnamed⟩⟩ := lookedUp_eq_ok hk h
  · refine lookedUp_of_unique hk' hne hself ((hmatch a).2 ?_) fun b hb hm => ?_
    · exact hname.trans ((hmatch app).1 ((hunique app hstored).2 rfl))
    · rcases hother b hb with rfl | ⟨hbid, hb⟩
      · rfl
      · exact absurd (congrArg App.id ((hunique b hb).1 hm)) hbid
  · rw [lookedUp_of_unnamed hk' hne fun b hb hm => ?_]
    · obtain rfl : app.id = reference := hreference
      rw [← hid, hself]
      rfl
    · rcases hother b hb with rfl | ⟨-, hb⟩
      · exact hunnamed app hstored ((hmatch app).2 (hname ▸ (hmatch b).1 hm))
      · exact hunnamed b hb hm

theorem SameDirectory.scopeIdOf_eq (h : s.SameDirectory t) : t.scopeIdOf = s.scopeIdOf := by
  funext k
  cases k with
  | global => rfl
  | cluster c key => exact h.clusterIdOf_eq c
  | project c p key =>
    show t.projectIdOf (joinScope c p) = s.projectIdOf (joinScope c p)
    simp only [projectIdOf, h.clusterIdOf_eq, h.projectIn_eq]

theorem SameDirectory.projectIdOf_eq (h : s.SameDirectory t) : t.projectIdOf = s.projectIdOf := by
  funext scope
  simp only [projectIdOf, h.clusterIdOf_eq, h.projectIn_eq]

theorem proposed_congr (hd : s.SameDirectory t) (hv : t.records.get .templateVersion = s.records.get .templateVersion)
    (hl : t.links = s.links) : t.proposed app flat version specifiers = s.proposed app flat version specifiers := by
  simp only [proposed, hd.scopeIdOf_eq, hd.projectIdOf_eq, stored_congr hv, checked_congr hl]

/-- Moving an app once more to where it is changes nothing. -/
theorem moved_again {answers : List Answer} {current next : TemplateVersion} {projectIds : List String}
    (h : TemplateVersion.replaceVersion next.id next.version version =
      TemplateVersion.replaceVersion current.id current.version version) :
    (app.moved answers current version projectIds).moved answers next version projectIds =
      app.moved answers current version projectIds := by
  unfold App.moved
  rw [h]
  cases projectIds.isEmpty <;> rfl

open FlatAnswers (ofAnswers)

/-- An app that was proposed is proposed again from itself, with the same entries given. -/
theorem proposed_again (hk : s.Keyed) (hw : s.WellFormed) (hplaced : ∀ answer ∈ app.answers, s.Placed answer)
    {given : List (String × String)} {base : String} {current next : TemplateVersion}
    (hcurrent : s.get? .templateVersion app.templateVersionId = some current)
    (hbase : current.id = base ++ current.version) (hnext : s.get? .templateVersion (base ++ version) = some next)
    (hversion : next.version = version) (hlink : next.links.get? "template" = current.links.get? "template")
    (h : s.proposed app ((ofAnswers app.answers).insertMany given) version specifiers = .ok a) :
    (s.replayed (.updated .app a)).proposed a ((ofAnswers a.answers).insertMany given) version specifiers = .ok a := by
  have hd : s.SameDirectory (s.replayed (.updated .app a)) := ⟨rfl, rfl, hw.clusterScripts, hw.projectScripts⟩
  rw [proposed_congr hd rfl rfl]
  obtain ⟨buckets, current', projectIds, hbuckets, hcurrent', hcheck, hids, rfl⟩ := proposed_eq_ok_iff.1 h
  obtain rfl : current' = current := Option.some.inj (hcurrent'.symm.trans hcurrent)
  have hid : TemplateVersion.replaceVersion current'.id current'.version version = base ++ version := by
    rw [hbase, TemplateVersion.replaceVersion_append]
  have hnextId : TemplateVersion.replaceVersion next.id next.version version = base ++ version := by
    rw [show next.id = base ++ version from hk .templateVersion _ next hnext, hversion,
      TemplateVersion.replaceVersion_append]
  have hfetch :
      s.get? .templateVersion (app.moved buckets.toAnswers current' version projectIds).templateVersionId =
        some next := by
    rw [show (app.moved buckets.toAnswers current' version projectIds).templateVersionId = base ++
      version from hid, hnext]
  refine proposed_eq_ok_iff.2 ⟨buckets, next, projectIds, ?_, hfetch, ?_, hids,
    (moved_again (hnextId.trans hid.symm)).symm⟩
  · exact FlatAnswers.fillWith_again hw hk (fun k hm => FlatAnswers.canonical_of_placed hw hplaced hm) hbuckets
  · rw [checked_of_link hlink, hcheck]

/-- It is found as the app was that it was proposed from. -/
theorem lookedUp_again (hk : s.Keyed) {reference : String} (hfound : s.lookedUp .app reference ∅ = .ok app)
    (h : s.proposed app flat version specifiers = .ok a) :
    (s.replayed (.updated .app a)).lookedUp .app reference ∅ = .ok a := by
  obtain ⟨_, _, _, -, -, -, -, rfl⟩ := proposed_eq_ok_iff.1 h
  exact lookedUp_insert_app hk hfound rfl rfl

end Store

/-! ## The command -/

/-- What is given does not depend on what it is laid over. -/
theorem AnswerSources.collect_of_given {files : Files} {sources : AnswerSources} {entries : List (String × String)}
    (h : given files sources = .ok entries) (seed : FlatAnswers) :
    collect files seed sources = .ok (seed.insertMany entries) := by
  obtain ⟨answers, hanswers, h⟩ := bind_eq_ok h
  obtain ⟨values, hvalues, h⟩ := bind_eq_ok h
  obtain ⟨settings, hsettings, h⟩ := bind_eq_ok h
  cases h
  rw [collect, hanswers, hvalues, hsettings, Dict.insertMany_append, Dict.insertMany_append]
  rfl

namespace Console

variable {files : Files} {format : Format} {r : UpgradeRequest} {version : String} {s : Store} {c c' : Console Store}

section Runs

variable (hs : Session.Sound s c.session) (hk : s.Kept c.session.client) (hu : s.Unscripted .app)
  (htv : s.Unscripted .templateVersion)
include hs hk hu

/-- Finding an app leaves a session that still agrees with the store. -/
theorem run_findApp_sound (reference : String) :
    ∃ c', (findApp reference).run c = ((s.lookedUp .app reference ∅).mapError .api, c') ∧
      Session.Sound s c'.session ∧ s.Kept c'.session.client := by
  obtain ⟨u, hlookup, hkept⟩ := run_findApp hk hu reference
  exact ⟨_, hlookup, hs.kept hkept, hk.trans hkept⟩

include htv

variable (hv : r.showVersions = false) (hversion : r.version = some version)
include hv hversion

/-- An upgrade that succeeds has stored the app that it proposes. -/
theorem proposed_of_run_upgrade (h : (upgrade files format r).run c = (.ok (), c')) :
    ∃ app flat a, s.lookedUp .app r.app ∅ = .ok app ∧
      AnswerSources.collect files (FlatAnswers.ofAnswers (App.answers app)) r.sources = .ok flat ∧
      s.proposed app flat version r.targets = .ok a ∧ (s.replayed (.updated .app a)).Kept c'.session.client := by
  rw [upgrade_to hv hversion] at h
  obtain ⟨app, c₁, hfind, h⟩ := Attempt.run_bind_eq_ok_iff.1 h
  obtain ⟨flat, c₂, h₂, h⟩ := Attempt.run_bind_eq_ok_iff.1 h
  obtain ⟨hcollect, rfl⟩ := Prod.mk.inj h₂
  obtain ⟨a, c₃, h₃, h⟩ := Attempt.run_bind_eq_ok_iff.1 h
  cases h
  obtain ⟨t, hupgrade, rfl⟩ := run_remote_eq_ok h₃
  obtain ⟨c₁', hfound, hs₁, hk₁⟩ := run_findApp_sound hs hk hu r.app
  obtain ⟨hlookup, rfl⟩ := Prod.mk.inj (hfound.symm.trans hfind)
  obtain ⟨hproposed, hkept⟩ := App.proposed_of_run_upgrade hs₁ hk₁ htv hupgrade
  exact ⟨app, flat, a, mapError_eq_ok.1 hlookup, hcollect, hproposed, hkept⟩

/-- What an upgrade proposes it stores, where there is an app with that ID. -/
theorem run_upgrade_of_proposed {app a : App} {flat : FlatAnswers} (hfound : s.lookedUp .app r.app ∅ = .ok app)
    (hcollect : AnswerSources.collect files (FlatAnswers.ofAnswers app.answers) r.sources = .ok flat)
    (hproposed : s.proposed app flat version r.targets = .ok a) (hold : ∃ old, s.get? .app a.id = some old) :
    ∃ c', (upgrade files format r).run c = (.ok (), c') ∧ (s.replayed (.updated .app a)).Kept c'.session.client := by
  obtain ⟨c₁, hfind, hs₁, hk₁⟩ := run_findApp_sound hs hk hu r.app
  rw [hfound] at hfind
  have hcollects :
      (Attempt.ofExcept (AnswerSources.collect files (FlatAnswers.ofAnswers app.answers) r.sources)).run c₁ =
      (.ok flat, c₁) := by rw [hcollect, Attempt.run_ofExcept]
  obtain ⟨t, hupgrade, hkept⟩ := App.run_upgrade_of_proposed hs₁ hk₁ htv hproposed hold
  rw [upgrade_to hv hversion, Attempt.run_bind_ok hfind, Attempt.run_bind_ok hcollects,
    Attempt.run_bind_ok (run_remote_of_ok hupgrade)]
  exact ⟨_, rfl, hkept⟩

end Runs

end Console

open FlatAnswers (ofAnswers)

/-- Of an upgrade that succeeds, a second run succeeds as well and leaves every record as the first one left it: on a
well-formed directory without scripts, where the answers of the app are placed, and the template versions that it has
and that is asked for have one link to their template and a common base followed by their versions as IDs. -/
theorem upgrade_idempotent {s : Store} (hr : s.Reachable) (hw : s.WellFormed) (hu : s.Unscripted .app)
    (htv : s.Unscripted .templateVersion) {files : Files} {config : Config} {i : Invocation} {r : UpgradeRequest}
    {version base : String} {app : App} {current next : TemplateVersion} {c c' c₂ : Console Store}
    (hclient : c.session.client = s) (hcmd : i.command = some (.upgrade r)) (hversion : r.version = some version)
    (hfound : ((Client.lookup .app r.app ∅).run s).1 = .ok app) (hplaced : ∀ a ∈ app.answers, s.Placed a)
    (hcurrent : s.get? .templateVersion app.templateVersionId = some current)
    (hbase : current.id = base ++ current.version) (hnext : s.get? .templateVersion (base ++ version) = some next)
    (hnextVersion : next.version = version) (hlink : next.links.get? "template" = current.links.get? "template")
    (hrun : (i.run files config).run c = (.ok (), c')) (hagain : c₂.session.client = c'.session.client) :
    ∃ c'', (i.run files config).run c₂ = (.ok (), c'') ∧
      ∀ kind id, c''.session.client.get? kind id = c'.session.client.get? kind id := by
  have hk := hr.keyed
  have hd : s.SameDirectory s := .refl hw.clusterScripts hw.projectScripts
  have hfound' : s.lookedUp .app r.app ∅ = .ok app := by
    obtain ⟨t, hlookup, -⟩ := Store.run_lookup (hu r.app) ∅
    rw [hlookup] at hfound
    exact hfound
  have hrenewed : ∀ c : Console Store, (i.run files config).run c =
      (Console.upgrade files i.format r).run { c with session := { client := c.session.client } } := by
    intro c
    rw [Invocation.run, hcmd, Attempt.run_bind_ok (Attempt.run_modify _ _)]
    rfl
  rw [hrenewed, hclient] at hrun
  simp only [hrenewed, hagain]
  cases hv : r.showVersions with
  | true =>
    obtain ⟨entries, hshown, hkept, -⟩ := Console.shown_of_run_upgrade (.refl s) hu htv hv hrun
    obtain ⟨c'', hrun', hkept', -⟩ := Console.run_upgrade_shows
      (c := { c₂ with session := { client := c'.session.client } }) hkept hu htv hv hshown
    refine ⟨c'', hrun', fun kind id => ?_⟩
    rw [hkept'.get?_eq, hkept.get?_eq]
  | false =>
    obtain ⟨app', flat, a, happ, hcollect, hproposed, hkept⟩ :=
      Console.proposed_of_run_upgrade (Session.sound_fresh hd) (.refl s) hu htv hv hversion hrun
    obtain rfl : app' = app := Except.ok.inj (happ.symm.trans hfound')
    obtain ⟨given, hgiven, rfl⟩ := AnswerSources.collect_eq_ok hcollect
    -- the second run starts from what the first one stored, up to reading
    have hfound₁ := Store.lookedUp_again hk happ hproposed
    have hproposed₁ := Store.proposed_again hk hw hplaced hcurrent hbase hnext hnextVersion hlink hproposed
    have hstored₁ : (s.replayed (.updated .app a)).get? .app a.id = some a := Store.get?_insert_self .app a s
    obtain ⟨c'', hrun', hkept'⟩ := Console.run_upgrade_of_proposed
      (c := { c₂ with session := { client := c'.session.client } }) (s := s.replayed (.updated .app a))
      (Session.sound_fresh (.kept (.refl hw.clusterScripts hw.projectScripts) hkept)) hkept hu htv hv hversion hfound₁
      (AnswerSources.collect_of_given hgiven _) hproposed₁ ⟨a, hstored₁⟩
    refine ⟨c'', hrun', fun kind id => ?_⟩
    rw [hkept'.get?_eq, hkept.get?_eq,
      Store.get?_replayed_updated hstored₁]

/-- The app beside both template versions that its template offers. -/
def kioskNext : Store :=
  let next : TemplateVersion := { id := "kiosk-1.1.0", version := "1.1.0", links := Dict.ofList [("template", "/t")] }
  App.kioskStore.insert .templateVersion next

def upgradeKioskAgain : UpgradeRequest :=
  { app := "kiosk"
    version := some "1.1.0"
    sources := { settings := ["prod:size=2", "c-1:size=3", "color=red"] }
    targets := ["prod:web"] }

/-- Entries that spell one scope in two ways are given twice. -/
theorem upgrade_idempotent_kiosk :
    ∃ c' c'', (({ command := some (.upgrade upgradeKioskAgain) } : Invocation).run noFiles {}).run
        ({ session := { client := kioskNext } } : Console Store) = (.ok (), c') ∧
      (({ command := some (.upgrade upgradeKioskAgain) } : Invocation).run noFiles {}).run c' = (.ok (), c'') ∧
      (∀ kind id, c''.session.client.get? kind id = c'.session.client.get? kind id) ∧
      (c''.session.client.get? .app "a-1").map App.answers = some
        [{ values := Dict.ofList [("color", "red"), ("zone", "eu")] },
          { clusterId := "c-1", values := Dict.ofList [("size", "2")] },
          { projectId := "c-1:p-1", values := Dict.ofList [("a:b", "3")] }] := by
  have hreach : kioskNext.Reachable := .inserted .templateVersion _ App.reachable_kioskStore
  have hwell : kioskNext.WellFormed :=
    wellFormed_kioskStore.congr ⟨rfl, rfl, Store.unscripted_ofRecords .cluster, Store.unscripted_ofRecords .project⟩
  have hplaced : ∀ a ∈ App.kiosk.answers, kioskNext.Placed a := fun a ha => by
    cases placed_kiosk a ha with
    | global hplain => exact .global hplain
    | cluster hc hplain => exact .cluster hc hplain
    | project hp => exact .project hp
  have hfound : ((Client.lookup .app upgradeKioskAgain.app ∅).run kioskNext).1 = Except.ok App.kiosk := by cbv
  have hrun : (({ command := some (.upgrade upgradeKioskAgain) } : Invocation).run noFiles {}).run
      ({ session := { client := kioskNext } } : Console Store) = (.ok (), _) := Prod.ext (by cbv) rfl
  have hversion : upgradeKioskAgain.version = some "1.1.0" := rfl
  have hbase : "kiosk-1.0.0" = "kiosk-" ++ "1.0.0" := rfl
  obtain ⟨c'', hagain, hsame⟩ := upgrade_idempotent hreach hwell (Store.unscripted_ofRecords .app)
    (Store.unscripted_ofRecords .templateVersion) rfl rfl hversion hfound hplaced rfl hbase rfl rfl rfl hrun rfl
  refine ⟨_, c'', hrun, hagain, hsame, ?_⟩
  rw [hsame]
  cbv

end MultiCluster
