/-
What commands change. Every command has a few lists of changes that a run of it may make (`Command.Footprint`); the
records and the log are, after the run, what these changes make of those before it (`Command.accounts`). So it is with
any number of command lines on one store (`Surroundings.serveAll_ledger`). Commands that show something are made of
steps that only read and end in printing (`Console.Shows`).
-/
import MultiCluster.Proofs.Command.Installation
import MultiCluster.Proofs.Command.Serving
namespace MultiCluster

/-! ## Commands that show something -/

namespace Console

variable {α : Type} {format : Format}

/-- Only reads, and prints nothing where it fails. -/
structure Shows (x : Attempt CommandFault (Console Store) Unit) : Prop where
  kept : x.Keeps (Session.client ∘ Console.session) Store.Kept
  silent : x.KeepsFailing id Quiet

theorem shows_print {x : Attempt CommandFault (Console Store) α} (hx : x.Keeps id Quiet) (f : α → Report) :
    Shows (x >>= fun a => print format (f a)) where
  kept := (hx.mono fun _ _ h => h.kept).bind fun _ _ => .refl _
  silent := .before (fun _ _ _ h => hx.of_run h) fun _ _ => ⟨(), rfl⟩

theorem shows_fail (e : CommandFault) : Shows (Attempt.fail e) where
  kept := .fail e
  silent c e' c' h := by
    cases h
    exact Std.Refl.refl _

theorem Shows.after {x : Attempt CommandFault (Console Store) α} {f : α → Attempt CommandFault (Console Store) Unit}
    (hx : x.Keeps id Quiet) (hf : ∀ a, Shows (f a)) : Shows (x >>= f) where
  kept := (hx.mono fun _ _ h => h.kept).bind fun a => (hf a).kept
  silent := .bind hx fun a => (hf a).silent

theorem shows_ls (quiet : Bool) : Shows (ls format quiet) := shows_print (quiet_remote (kept_listApps quiet)) _

theorem shows_listTemplates (catalog : Option String) : Shows (listTemplates format catalog) :=
  .after (quiet_catalogFilter catalog) fun filters =>
    shows_print (quiet_remote ((Session.readsKeep Store.readsKeep).listAll .template filters)) _

theorem shows_showTemplate (reference : String) : Shows (showTemplate format reference) :=
  .after (quiet_lookup .template reference ∅) fun _ => shows_print (quiet_ofExcept _) _

theorem shows_showApp (reference : String) : Shows (showApp format reference) :=
  .after (quiet_findApp reference) fun a => .after (quiet_revisionsOf a) fun _ => shows_print (quiet_versionsOf a) _

/-- So do an upgrade and a rollback that are asked for versions and revisions. -/
theorem shows_versions {files : Files} {r : UpgradeRequest} (hv : r.showVersions = true) :
    Shows (upgrade files format r) := by
  refine .after (quiet_findApp r.app) fun a => ?_
  rw [hv]
  exact shows_print (quiet_versionsOf a) _

theorem shows_revisions {r : RollbackRequest} (hr : r.showRevisions = true) : Shows (rollback format r) := by
  refine .after (quiet_findApp r.app) fun a => ?_
  rw [hr]
  exact shows_print (quiet_revisionsOf a) _

/-! ## Commands that change something -/

theorem keepsFailing_remote {x : Attempt Fault (Session Store) α} (h : x.KeepsFailing Session.client Store.Kept) :
    (remote x).KeepsFailing id Quiet := by
  intro c e c' hrun
  rw [run_remote] at hrun
  rcases hx : x.run c.session with ⟨e' | a, t⟩ <;> rw [hx] at hrun <;> cases hrun
  exact ⟨h _ _ _ hx, rfl⟩

theorem keepsFailing_upgrade (files : Files) (r : UpgradeRequest) : (upgrade files format r).KeepsFailing id Quiet := by
  refine .bind (quiet_findApp r.app) fun a => ?_
  split
  · exact (shows_print (quiet_versionsOf a) _).silent
  · split
    · exact (shows_fail _).silent
    · refine .bind (quiet_ofExcept _) fun answers => ?_
      exact .before (keepsFailing_remote (App.keepsFailing_upgrade a answers _ r.targets)) fun _ _ => ⟨(), rfl⟩

theorem keepsFailing_rollback (r : RollbackRequest) :
    (rollback format r : Attempt _ (Console Store) _).KeepsFailing id Quiet := by
  refine .bind (quiet_findApp r.app) fun a => ?_
  split
  · exact (shows_print (quiet_revisionsOf a) _).silent
  · split
    · exact (shows_fail _).silent
    · refine .bind (quiet_lookup .revision _ ∅) fun revision => ?_
      -- an action is always taken
      exact .of_ok fun _ => ⟨(), rfl⟩

variable {c c' : Console Store}

theorem run_remote_delete (a : App) (c : Console Store) :
    (remote (Client.delete .app a)).run c = ((c.session.client.delete .app a).1.mapError .api,
      { c with session := { c.session with client := (c.session.client.delete .app a).2 } }) := by
  rw [run_remote]
  rfl

/-- Apps are deleted one after the other, up to the first that cannot be. -/
theorem run_delete (apps : List String) {o : Except CommandFault Unit} (h : (delete format apps).run c = (o, c')) :
    ∃ ids : List String, (c.session.client.replay (ids.map (.deleted .app))).Kept c'.session.client ∧
      ids.length ≤ apps.length ∧ (o = .ok () → ids.length = apps.length) := by
  induction apps generalizing c with
  | nil =>
    cases h
    exact ⟨[], .refl _, Nat.le_refl _, fun _ => rfl⟩
  | cons reference apps ih =>
    unfold delete at h
    rcases hfind : (findApp reference).run c with ⟨e | a, c₁⟩
    all_goals have hkept : c.session.client.Kept c₁.session.client := ((quiet_findApp reference).of_run hfind).kept
    · rw [Attempt.run_bind_error hfind] at h
      cases h
      exact ⟨[], hkept, Nat.zero_le _, nofun⟩
    rw [Attempt.run_bind_ok hfind] at h
    have hdelete := run_remote_delete a c₁
    rcases hstore : c₁.session.client.delete .app a with ⟨e | _, s⟩ <;> rw [hstore] at hdelete
    · obtain rfl : s = c₁.session.client := Store.delete_eq_error hstore
      rw [Attempt.run_bind_error hdelete] at h
      cases h
      exact ⟨[], hkept, Nat.zero_le _, nofun⟩
    · obtain ⟨-, hs⟩ := Store.delete_eq_ok hstore
      rw [Attempt.run_bind_ok hdelete] at h
      obtain ⟨ids, hrest, hle, hall⟩ := ih h
      have hreplayed : (c.session.client.replayed (.deleted .app a.id)).Kept s :=
        hs ▸ hkept.replayed (.deleted .app a.id)
      refine ⟨a.id :: ids, ?_, Nat.succ_le_succ hle, fun ho => congrArg Nat.succ (hall ho)⟩
      exact (hreplayed.replay _).trans hrest

end Console

/-! ## Footprints -/

namespace Command

/-- The changes that a run of a command on the store `s` may make, by whether it succeeds. -/
inductive Footprint (s : Store) : Command → Bool → List Change → Prop
  | ls (quiet ok : Bool) : Footprint s (.ls quiet) ok []
  | listTemplates (catalog : Option String) (ok : Bool) : Footprint s (.listTemplates catalog) ok []
  | showTemplate (template : String) (ok : Bool) : Footprint s (.showTemplate template) ok []
  | showApp (app : String) (ok : Bool) : Footprint s (.showApp app) ok []
  /-- A delete that fails may have deleted some of the apps. -/
  | deleted {apps ids : List String} {ok : Bool} (hle : ids.length ≤ apps.length)
      (hall : ok = true → ids.length = apps.length) : Footprint s (.delete apps) ok (ids.map (.deleted .app))
  /-- An install that fails may have created its app. -/
  | created (r : InstallRequest) (ok : Bool) (a : App) : Footprint s (.install r) ok [.created .app a]
  | notCreated (r : InstallRequest) : Footprint s (.install r) false []
  | versions {r : UpgradeRequest} (hv : r.showVersions = true) (ok : Bool) : Footprint s (.upgrade r) ok []
  | updated {r : UpgradeRequest} (hv : r.showVersions = false) (a : App) :
    Footprint s (.upgrade r) true [.updated .app a]
  | notUpdated (r : UpgradeRequest) : Footprint s (.upgrade r) false []
  | revisions {r : RollbackRequest} (hr : r.showRevisions = true) (ok : Bool) : Footprint s (.rollback r) ok []
  | acted {r : RollbackRequest} {a : App} (hr : r.showRevisions = false)
      (happ : ((Client.lookup .app r.app ∅).run s).1 = .ok a) (revisionId : String) :
      Footprint s (.rollback r) true [.acted .app a.id "rollback" (Json.ofMembers [("revisionId", .text revisionId)])]
  | notActed (r : RollbackRequest) : Footprint s (.rollback r) false []

/-- Any command may fail without a change. -/
theorem Footprint.of_failed (s : Store) (cmd : Command) : cmd.Footprint s false [] := by
  cases cmd with
  | ls quiet => exact .ls quiet false
  | delete apps => exact @Footprint.deleted s apps [] false (Nat.zero_le _) nofun
  | install r => exact .notCreated r
  | upgrade r => exact .notUpdated r
  | rollback r => exact .notActed r
  | listTemplates catalog => exact .listTemplates catalog false
  | showTemplate template => exact .showTemplate template false
  | showApp app => exact .showApp app false

/-- What is known of a run of a command that made these changes. -/
structure Accounts (cmd : Command) (c : Console Store) (o : Except CommandFault Unit) (c' : Console Store)
    (changes : List Change) : Prop where
  footprint : cmd.Footprint c.session.client o.isOk changes
  kept : (c.session.client.replay changes).Kept c'.session.client
  silent : o.isOk = false → (∀ apps, cmd ≠ .delete apps) → c'.output = c.output

section Accounts

open Console (Shows Quiet)

variable {cmd : Command} {x : Attempt CommandFault (Console Store) Unit} {c c' : Console Store}
  {o : Except CommandFault Unit}

theorem accounts_of_shows (hx : Shows x) (hcmd : ∀ ok, cmd.Footprint c.session.client ok []) (h : x.run c = (o, c')) :
    cmd.Accounts c o c' [] where
  footprint := hcmd o.isOk
  kept := hx.kept.of_run h
  silent hfail _ := by
    cases o with
    | ok => cases hfail
    | error e => exact (hx.silent c e c' h).output

theorem accounts_of_failed {e : CommandFault} (hx : x.KeepsFailing id Quiet) (h : x.run c = (.error e, c')) :
    cmd.Accounts c (.error e) c' [] where
  footprint := .of_failed _ cmd
  kept := (hx c e c' h).kept
  silent _ _ := (hx c e c' h).output

variable {files : Files} {format : Format}

theorem accounts_delete {apps : List String} (h : (Console.delete format apps).run c = (o, c')) :
    ∃ changes, (delete apps).Accounts c o c' changes := by
  obtain ⟨ids, hkept, hle, hall⟩ := Console.run_delete apps h
  refine ⟨_, .deleted hle fun hok => hall ?_, hkept, fun _ hne => absurd rfl (hne apps)⟩
  cases o with
  | ok => rfl
  | error e => cases hok

theorem accounts_install {currentProject : Option String} {r : InstallRequest}
    (h : (Console.install files currentProject format r).run c = (o, c')) :
    ∃ changes, (install r).Accounts c o c' changes := by
  rcases hnew : (Console.newApp files currentProject r).run c with ⟨e | a, c₁⟩
  all_goals have hquiet := (Console.quiet_newApp files currentProject r).of_run hnew
  · have hrun : (Console.install files currentProject format r).run c = _ := Attempt.run_bind_error hnew
    cases hrun.symm.trans h
    exact ⟨[], .notCreated r, hquiet.kept, fun _ _ => hquiet.output⟩
  · obtain ⟨w, s', c'', hwait, hrun, rfl, hsilent⟩ := Console.run_install_of_ok format (Console.id_newApp hnew) hnew
    cases hrun.symm.trans h
    refine ⟨[.created .app a], .created r _ a, ?_, fun hfail _ => ?_⟩
    · exact (hquiet.kept.replayed (.created .app a)).trans (kept_awaited hwait)
    · cases w with
      | ok b => cases hfail
      | error e => exact (hsilent e rfl).trans hquiet.output

theorem accounts_upgrade {r : UpgradeRequest} (h : (Console.upgrade files format r).run c = (o, c')) :
    ∃ changes, (upgrade r).Accounts c o c' changes := by
  cases hv : r.showVersions with
  | true => exact ⟨[], accounts_of_shows (Console.shows_versions hv) (.versions hv) h⟩
  | false =>
    cases o with
    | error e => exact ⟨[], accounts_of_failed (Console.keepsFailing_upgrade files r) h⟩
    | ok =>
      obtain ⟨a, s, flat, version, b, hlookup, -, hupgrade⟩ := Console.run_upgrade_steps hv h
      have hfound : c.session.client.Kept s := (Store.readsKeep.lookup .app r.app ∅).of_run hlookup
      obtain ⟨-, -, -, -, -, u, -, -, -, -, -, hkept, -, hupdate⟩ := App.run_upgrade_eq_ok hupgrade
      refine ⟨[.updated .app b], .updated hv b, ?_, nofun⟩
      rw [hupdate]
      exact (hfound.trans hkept).replayed (.updated .app b)

theorem accounts_rollback {r : RollbackRequest} (h : (Console.rollback format r).run c = (o, c')) :
    ∃ changes, (rollback r).Accounts c o c' changes := by
  cases hr : r.showRevisions with
  | true => exact ⟨[], accounts_of_shows (Console.shows_revisions hr) (.revisions hr) h⟩
  | false =>
    cases o with
    | error e => exact ⟨[], accounts_of_failed (Console.keepsFailing_rollback r) h⟩
    | ok =>
      obtain ⟨a, reference, revision, s, s', -, happ, hrevision, hact⟩ := Console.run_rollback_steps hr h
      have hfound : c.session.client.Kept s := (Store.readsKeep.lookup .app r.app ∅).of_run happ
      have hkept : s.Kept s' := (Store.readsKeep.lookup .revision reference ∅).of_run hrevision
      have hreplayed := (hfound.trans hkept).replayed
        (.acted .app a.id "rollback" (Json.ofMembers [("revisionId", .text revision.id)]))
      have hclient : s'.action .app a "rollback" (Json.ofMembers [("revisionId", .text revision.id)]) =
          c'.session.client :=
        (Prod.mk.inj hact).2
      exact ⟨[_], .acted hr (congrArg Prod.fst happ) revision.id, hclient ▸ hreplayed, nofun⟩

/-- Every run of a command is accounted for. -/
theorem accounts {config : Config} (h : (cmd.run files config format).run c = (o, c')) :
    ∃ changes, cmd.Accounts c o c' changes := by
  cases cmd with
  | ls quiet => exact ⟨[], accounts_of_shows (Console.shows_ls quiet) (.ls quiet) h⟩
  | delete apps => exact accounts_delete h
  | install r => exact accounts_install h
  | upgrade r => exact accounts_upgrade h
  | rollback r => exact accounts_rollback h
  | listTemplates catalog =>
    exact ⟨[], accounts_of_shows (Console.shows_listTemplates catalog) (.listTemplates catalog) h⟩
  | showTemplate template =>
    exact ⟨[], accounts_of_shows (Console.shows_showTemplate template) (.showTemplate template) h⟩
  | showApp app => exact ⟨[], accounts_of_shows (Console.shows_showApp app) (.showApp app) h⟩

/-- Of two apps the first is deleted before the second is not found. -/
example :
    let store : Store := ({} : Store).insert .app { id := "a-1", name := "shop" }
    let (o, c) :=
      ((delete ["shop", "gone"]).run noFiles {} .table).run ({ session := { client := store } } : Console Store)
    o.isOk = false ∧ c.session.client.deleted = [(.app, "a-1")] ∧ c.output = "✓ Deleted shop\n" := by
  cbv

end Accounts

end Command

/-! ## Command lines -/

namespace Surroundings

/-- What is known of a command line on the store `s` that made these changes: they are a footprint of its command, and
all that happened to the records and the log. A command that fails has printed nothing, unless it deletes. -/
structure Accounts (x : Surroundings) (s : Store) (o : RunResult) (changes : List Change) (s' : Store) : Prop where
  kept : (s.replay changes).Kept s'
  unread : ∀ fault, Invocation.parse x.environment x.words = .error fault → changes = []
  footprint : ∀ i, Invocation.parse x.environment x.words = .ok i →
    (i.command.getD (.ls false)).Footprint s o.complaint.isNone changes
  silent : ∀ i, Invocation.parse x.environment x.words = .ok i → o.complaint ≠ none →
    (∀ apps, i.command.getD (.ls false) ≠ .delete apps) → o.output = ""

theorem accounts_serve (x : Surroundings) (s : Store) :
    ∃ changes, x.Accounts s (x.serve s).1 changes (x.serve s).2 := by
  cases hparse : Invocation.parse x.environment x.words with
  | error fault =>
    have hstore : (x.serve s).2 = s := by simp only [serve, hparse]
    refine ⟨[], ?_, fun _ _ => rfl, ?_, ?_⟩
    · rw [hstore]
      exact .refl s
    all_goals
      intro i hi
      rw [hparse] at hi
      cases hi
  | ok i =>
    cases hconfig : i.resolveConfig x.files x.home with
    | error fault =>
      have hserve : x.serve s = ({ complaint := some (.failure fault), unread := x.input }, s) := by
        simp only [serve, hparse, hconfig]
      rw [hserve]
      refine ⟨[], .refl s, fun _ _ => rfl, ?_, fun _ _ _ _ => rfl⟩
      exact fun i' _ => .of_failed s _
    | ok config =>
      rcases hrun :
        (i.run x.files config).run { session := { client := s }, terminal := { input := x.input } } with ⟨o, c'⟩
      have hcommand : ((i.command.getD (.ls false)).run x.files config i.format).run
          { session := { client := s }, terminal := { input := x.input } } = (o, c') := hrun
      obtain ⟨changes, hfootprint, hkept, hsilent⟩ := Command.accounts hcommand
      have hok : (Console.result o c').complaint.isNone = o.isOk := by cases o <;> rfl
      rw [serve_of_ok hparse hconfig s hrun]
      refine ⟨changes, hkept, ?_, ?_, ?_⟩
      · intro fault hfault
        rw [hparse] at hfault
        cases hfault
      · intro i' hi'
        obtain rfl : i = i' := Except.ok.inj (hparse.symm.trans hi')
        rw [hok]
        exact hfootprint
      · intro i' hi' hfail hdelete
        obtain rfl : i = i' := Except.ok.inj (hparse.symm.trans hi')
        refine hsilent ?_ hdelete
        cases o with
        | ok => exact absurd rfl hfail
        | error e => rfl

/-- Command lines one after the other, each with the changes it made. -/
inductive Ledger : List Surroundings → Store → List RunResult → List (List Change) → Store → Prop
  | nil (s : Store) : Ledger [] s [] [] s
  | cons {x : Surroundings} {xs : List Surroundings} {s s' s'' : Store} {o : RunResult} {os : List RunResult}
      {changes : List Change} {rest : List (List Change)} (hx : x.Accounts s o changes s')
      (hxs : Ledger xs s' os rest s'') :
      Ledger (x :: xs) s (o :: os) (changes :: rest) s''

/-- The store at the end is what all the changes make of the one at the beginning. -/
theorem Ledger.kept {xs : List Surroundings} {s s' : Store} {os : List RunResult} {changes : List (List Change)}
    (h : Ledger xs s os changes s') : (s.replay changes.flatten).Kept s' := by
  induction h with
  | nil s => exact .refl s
  | cons hx _ ih =>
    rw [List.flatten_cons, Store.replay_append]
    exact (hx.kept.replay _).trans ih

/-- Of any command lines that run one after the other on one store, each makes changes that are a footprint of its
command; the records and the log are in the end what these changes, in their order, make of those before. -/
theorem serveAll_ledger (xs : List Surroundings) (s : Store) :
    ∃ changes, Ledger xs s (serveAll xs s).1 changes (serveAll xs s).2 ∧
      (serveAll xs s).2.records = (s.replay changes.flatten).records ∧
      (serveAll xs s).2.log = s.log ++ changes.flatten := by
  have hledger : ∃ changes, Ledger xs s (serveAll xs s).1 changes (serveAll xs s).2 := by
    induction xs generalizing s with
    | nil => exact ⟨[], .nil s⟩
    | cons x xs ih =>
      obtain ⟨changes, hx⟩ := accounts_serve x s
      obtain ⟨rest, hxs⟩ := ih (x.serve s).2
      exact ⟨changes :: rest, .cons hx hxs⟩
  obtain ⟨changes, h⟩ := hledger
  exact ⟨changes, h, h.kept.records, by rw [h.kept.log, Store.log_replay]⟩

end Surroundings

end MultiCluster
