/-
Which revision a rollback acts on. The command looks its reference up among all revisions of the store:
it acts on the only one of that name, or on the one with that ID where none has the name
(`rollback_acts`). The revisions that it shows are others: those that the link of the app leads to
(`revisionsOf_eq`). So an app can be taken to a revision that is not among its own
(`rollback_elsewhere`).
-/
import MultiCluster.Command.Change
import MultiCluster.Proofs.Command.Console
import MultiCluster.Proofs.Store.Reachable
import Mathlib
namespace MultiCluster

namespace Console

section Listed

variable {σ : Type} [Client σ]

/-- The revisions that the link of an app leads to, followed to its end. -/
def listedRevisions (a : App) : Attempt CommandFault (Console σ) (List Revision) := do
  let url ← link a.links "revisions" ("app '" ++ a.name ++ "'")
  remote (do
    let first ← Client.follow (Page.ofTree? (Kind.ofTree? .revision)) url
    Client.drain .revision first)

/-- They are the ones that are shown. -/
theorem revisionsOf_eq (a : App) :
    (revisionsOf a : Attempt CommandFault (Console σ) _) =
      listedRevisions a >>= fun revisions => judged (sortRevisions revisions a.status.revisionId) := by
  unfold revisionsOf listedRevisions
  rw [bind_assoc]

end Listed

variable {c c' : Console Store} {format : Format} {app reference : String}

/-- A rollback that succeeds logs one action, on the app that was found. The revision it names is one of the
store, of that name or with that ID, and there is no other of that name in the whole store. -/
theorem rollback_acts (hr : c.session.client.Reachable) (hu : c.session.client.Unscripted .revision)
    (h : (rollback format { app, revision := some reference }).run c = (.ok (), c')) :
    ∃ a : App, ∃ revision : Revision, ((Client.lookup .app app ∅).run c.session.client).1 = .ok a ∧
      c'.session.client.log = c.session.client.log ++
        [.acted .app a.id "rollback" (Json.ofMembers [("revisionId", .text revision.id)])] ∧
      c.session.client.get? .revision revision.id = some revision ∧
      (revision.name = reference ∨ revision.id = reference) ∧
      ∀ r' : Revision, c.session.client.get? .revision r'.id = some r' → r'.name = reference → r' = revision := by
  obtain ⟨a, _, revision, s₁, s₂, ⟨⟩, happ, hrevision, hact⟩ := run_rollback_steps rfl h
  have hkept₁ : c.session.client.Kept s₁ := (Store.readsKeep.lookup .app app ∅).of_run happ
  -- the revision is looked up in a store with the same records
  obtain ⟨s₂', hrun, hkept₂⟩ := Store.run_lookup (hkept₁.unscripted .revision hu reference) ∅
  obtain ⟨hlooked, rfl⟩ := Prod.mk.inj (hrun.symm.trans hrevision)
  have hfound : c.session.client.lookedUp .revision reference ∅ = .ok revision := by
    rw [← hlooked]
    exact (Store.lookedUp_congr (congrArg (·.get .revision) hkept₁.records) reference ∅).symm
  obtain ⟨-, hstored, hunique⟩ := Store.lookedUp_eq_ok hr.keyed hfound
  have hclient :
      c'.session.client = s₂'.action .app a "rollback" (Json.ofMembers [("revisionId", .text revision.id)]) :=
    (Prod.mk.inj hact).2.symm
  refine ⟨a, revision, congrArg Prod.fst happ, ?_, hstored, ?_, ?_⟩
  · calc c'.session.client.log
        = s₂'.log ++ [.acted .app a.id "rollback"
          (Json.ofMembers [("revisionId", .text revision.id)])] := by rw [hclient]; rfl
      _ = _ := by rw [hkept₂.log, hkept₁.log]
  · rcases hunique with hname | ⟨hid, -⟩
    · exact .inl (Kind.matchesAll_revision_name.1 ((hname revision hstored).2 rfl))
    · exact .inr hid
  · intro r' hr' hn
    rcases hunique with hname | ⟨-, hnone⟩
    · exact (hname r' hr').1 (Kind.matchesAll_revision_name.2 hn)
    · exact absurd (Kind.matchesAll_revision_name.2 hn) (hnone r' hr')

/-- An app whose link leads to one revision. -/
def shopWithRevision : App := { id := "a-1", name := "shop", links := Dict.ofList [("revisions", "/r/a-1")] }

/-- That revision and another one, to which the link does not lead. -/
def firstAndSecond : List Revision :=
  [⟨"r-1", "first", "2024-01-01T00:00:00Z"⟩, ⟨"r-2", "second", "2024-01-02T00:00:00Z"⟩]

/-- The app beside the two revisions. -/
def revisionStore : Store :=
  (Store.insertAll .revision firstAndSecond (Store.insertAll .app [shopWithRevision] {})).insertLink "/r/a-1"
    (Json.ofMembers [("data", .array ((firstAndSecond.take 1).map Revision.toJson))])

theorem reachable_revisionStore : revisionStore.Reachable :=
  .linked "/r/a-1" _ (Store.reachable_insertAll (Store.reachable_insertAll .empty))

theorem unscripted_revisionStore : revisionStore.Unscripted .revision := fun id =>
  (Store.scriptOf_insertAll .revision id).trans (Store.scriptOf_insertAll .revision id)

/-- The revision of the name that is given is acted on. -/
theorem rollback_acts_first :
    ∃ c', (rollback .table { app := "shop", revision := some "first" }).run { session := { client := revisionStore } } =
        (.ok (), c') ∧
      c'.session.client.log = [.acted .app "a-1" "rollback" (Json.ofMembers [("revisionId", .text "r-1")])] := by
  have hrun : (rollback .table { app := "shop", revision := some "first" }).run
      ({ session := { client := revisionStore } } : Console Store) = (.ok (), _) := Prod.ext (by cbv) rfl
  refine ⟨_, hrun, ?_⟩
  obtain ⟨a, revision, happ, hlog, -, -, hunique⟩ := rollback_acts reachable_revisionStore unscripted_revisionStore hrun
  have hshop : ((Client.lookup .app "shop" ∅).run revisionStore).1 = .ok shopWithRevision := by cbv
  obtain rfl : shopWithRevision = a := Except.ok.inj (hshop.symm.trans happ)
  obtain rfl : ⟨"r-1", "first", "2024-01-01T00:00:00Z"⟩ = revision := hunique _ (by rfl) rfl
  exact hlog

/-- Only the revision that the link leads to is shown. -/
theorem rollback_shows_first :
    ∃ c', (rollback .table { app := "shop", showRevisions := true }).run
        ({ session := { client := revisionStore } } : Console Store) = (.ok (), c') ∧
      c'.output = "CURRENT  REVISION  CREATED\n         first     01 Jan 2024 00:00:00 UTC\n" := by
  have hfind : (findApp "shop").run ({ session := { client := revisionStore } } : Console Store) =
      (.ok shopWithRevision, _) := Prod.ext (by cbv) rfl
  have hlisted : (listedRevisions shopWithRevision).run
      ((findApp "shop").run ({ session := { client := revisionStore } } : Console Store)).2 =
      (.ok (firstAndSecond.take 1), _) := Prod.ext (by cbv) rfl
  have hread : (firstAndSecond.take 1).mapM (RevisionEntry.ofRevision shopWithRevision.status.revisionId) =
      .ok [⟨"first", ⟨1704067200, 0⟩, false⟩] := by decide +kernel
  have hsort : sortRevisions (firstAndSecond.take 1) shopWithRevision.status.revisionId =
      .ok [⟨"first", ⟨1704067200, 0⟩, false⟩] := by
    rw [sortRevisions, hread]
    cbv
  unfold rollback
  rw [Attempt.run_bind_ok hfind]
  dsimp only
  rw [if_pos rfl, revisionsOf_eq, bind_assoc, Attempt.run_bind_ok hlisted, hsort]
  exact ⟨_, rfl, by cbv⟩

/-- The app is taken to the revision that its link does not lead to, and that is not among those which are shown. -/
theorem rollback_elsewhere :
    ∃ c' c₂ R t, (rollback .table { app := "shop", revision := some "r-2" }).run
        ({ session := { client := revisionStore } } : Console Store) = (.ok (), c') ∧
      c'.session.client.actions = [(.app, "a-1", "rollback", Json.ofMembers [("revisionId", .text "r-2")])] ∧
      (listedRevisions shopWithRevision).run ({ session := { client := revisionStore } } : Console Store) = (.ok R, t) ∧
      "r-2" ∉ R.map Revision.id ∧
      (rollback .table { app := "shop", showRevisions := true }).run
        ({ session := { client := revisionStore } } : Console Store) = (.ok (), c₂) ∧
      c₂.output = "CURRENT  REVISION  CREATED\n         first     01 Jan 2024 00:00:00 UTC\n" := by
  have hrun : (rollback .table { app := "shop", revision := some "r-2" }).run
      ({ session := { client := revisionStore } } : Console Store) = (.ok (), _) := Prod.ext (by cbv) rfl
  have hlisted : (listedRevisions shopWithRevision).run ({ session := { client := revisionStore } } : Console Store) =
      (.ok (firstAndSecond.take 1), _) := Prod.ext (by cbv) rfl
  obtain ⟨c₂, hshow, houtput⟩ := rollback_shows_first
  exact ⟨_, c₂, _, _, hrun, by cbv, hlisted, by decide, hshow, houtput⟩

end Console

end MultiCluster
