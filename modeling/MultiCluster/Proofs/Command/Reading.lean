/-
What commands do before they change or print anything: they read. Of each part of a command that only asks the
server, asks at the terminal or reads files it is known that it leaves the records and the log, and the output,
as they were (`Quiet`).
-/
import MultiCluster.Command.Run
import MultiCluster.Proofs.Command.Console
import MultiCluster.Proofs.Lifecycle.Upgrade
namespace MultiCluster

namespace Console

/-- The later console is on a store that was only read in between, and has printed nothing. -/
structure Quiet (c c' : Console Store) : Prop where
  kept : c.session.client.Kept c'.session.client
  output : c'.output = c.output

instance : IsPreorder (Console Store) Quiet where
  refl _ := ⟨.refl _, rfl⟩
  trans _ _ _ h h' := ⟨h.kept.trans h'.kept, h'.output.trans h.output⟩

variable {α β : Type}

/-! ## Parts of commands -/

theorem quiet_remote {x : Attempt Fault (Session Store) α} (h : x.Keeps Session.client Store.Kept) :
    (remote x).Keeps id Quiet := by
  refine Attempt.Keeps.mapError (fun c => ?_) CommandFault.api
  exact ⟨h c.session, rfl⟩

theorem quiet_ofExcept (x : Except CommandFault α) :
    (Attempt.ofExcept x : Attempt CommandFault (Console Store) α).Keeps id Quiet :=
  .of_run_eq fun _ => rfl

theorem quiet_interview (prompting : Bool) (questions : List Question) (answers : FlatAnswers) :
    (interview prompting questions answers : Attempt CommandFault (Console Store) _).Keeps id Quiet := fun c => by
  rw [run_interview]
  exact ⟨.refl _, rfl⟩

theorem quiet_link (links : Dict String) (name owner : String) :
    (link links name owner : Attempt CommandFault (Console Store) _).Keeps id Quiet := by
  unfold link
  split
  · exact .pure _
  · exact .fail _

/-! ## Reading through the session -/

/-- A call that only asks, made through the session. -/
theorem kept_answer {c : Call} (h : c.IsRead) :
    (Client.answer c : Attempt Fault (Session Store) _).Keeps Session.client Store.Kept :=
  Session.readsKeep Store.readsKeep c h

/-- A lookup at a console finds what the records of a store decide that was only read so far. -/
theorem run_remote_lookup {s : Store} {c : Console Store} (hk : s.Kept c.session.client) {kind : Kind}
    (hu : s.Unscripted kind) (reference : String) (filters : Dict String) :
    ∃ u, (remote (Client.lookup kind reference filters)).run c =
        ((s.lookedUp kind reference filters).mapError .api, { c with session := { c.session with client := u } }) ∧
      c.session.client.Kept u := by
  obtain ⟨u, hlookup, hkept⟩ := Store.run_lookup (hk.unscripted kind hu reference) filters
  refine ⟨u, ?_, hkept⟩
  rw [run_remote, Session.lookup_eq_onClient, Session.run_onClient, hlookup,
    Store.lookedUp_congr (congrArg (·.get kind) hk.records)]

theorem run_findApp {s : Store} {c : Console Store} (hk : s.Kept c.session.client) (hu : s.Unscripted .app)
    (reference : String) :
    ∃ u, (findApp reference).run c =
        ((s.lookedUp .app reference ∅).mapError .api, { c with session := { c.session with client := u } }) ∧
      c.session.client.Kept u := run_remote_lookup hk hu reference ∅

theorem quiet_lookup (kind : Kind) (reference : String) (filters : Dict String) :
    (remote (Client.lookup kind reference filters) : Attempt CommandFault (Console Store) _).Keeps id Quiet :=
  quiet_remote ((Session.readsKeep Store.readsKeep).lookup kind reference filters)

theorem quiet_byId (kind : Kind) (id' : String) :
    (remote (Client.byId kind id') : Attempt CommandFault (Console Store) _).Keeps id Quiet :=
  quiet_remote (kept_answer (c := .byId kind id') trivial)

theorem quiet_follow (read : Json.Tree → Option α) (url : String) :
    (remote (Client.follow read url) : Attempt CommandFault (Console Store) _).Keeps id Quiet :=
  quiet_remote ((Session.readsKeep Store.readsKeep).follow read url)

theorem quiet_findApp (reference : String) :
    (findApp reference : Attempt CommandFault (Console Store) _).Keeps id Quiet :=
  quiet_lookup .app reference ∅

theorem quiet_revisionsOf (a : App) : (revisionsOf a : Attempt CommandFault (Console Store) _).Keeps id Quiet := by
  refine (quiet_link a.links "revisions" _).bind fun url => ?_
  have h := Session.readsKeep Store.readsKeep
  refine (quiet_remote ((h.follow _ url).bind fun first => h.drain .revision first)).bind fun revisions => ?_
  exact quiet_ofExcept _

theorem quiet_versionsOf (a : App) : (versionsOf a : Attempt CommandFault (Console Store) _).Keeps id Quiet := by
  refine (quiet_byId .templateVersion a.templateVersionId).bind fun current => ?_
  refine (quiet_link _ "template" _).bind fun url => ?_
  refine (quiet_follow _ url).bind fun template => ?_
  exact quiet_ofExcept _

theorem quiet_catalogFilter (catalog : Option String) :
    (catalogFilter catalog : Attempt CommandFault (Console Store) _).Keeps id Quiet := by
  cases catalog with
  | none => exact .pure _
  | some reference => exact (quiet_lookup .catalog reference ∅).bind fun _ => .pure _

/-! ## Listings -/

theorem kept_versionOf (id' : String) :
    (Session.versionOf id' : Attempt Fault (Session Store) _).Keeps Session.client Store.Kept := by
  refine .bind (.of_run_eq fun _ => rfl) fun t => ?_
  split
  · exact .pure _
  · refine (kept_answer (c := .byId .templateVersion id') trivial).bind fun found => ?_
    exact .bind (fun _ => Store.Kept.refl _) fun _ => .pure _

theorem kept_appRows (d : Directory) (apps : List App) :
    (appRows d apps : Attempt Fault (Session Store) _).Keeps Session.client Store.Kept := by
  induction apps with
  | nil => exact .pure _
  | cons a apps ih =>
    have hrow : (appRow d a : Attempt Fault (Session Store) _).Keeps Session.client Store.Kept := by
      unfold appRow
      split
      · exact .bind (.pure _) fun _ => .pure _
      · exact (kept_versionOf a.templateVersionId).bind fun _ => .pure _
    exact hrow.bind fun _ => ih.bind fun _ => .pure _

theorem kept_listApps (quiet : Bool) :
    (listApps quiet : Attempt Fault (Session Store) _).Keeps Session.client Store.Kept := by
  have h := Session.readsKeep Store.readsKeep
  refine (h.listAll .app ∅).bind fun apps => ?_
  dsimp only
  split
  · exact .pure _
  · have hload : (Directory.load : Attempt Fault (Session Store) _).Keeps (id ∘ Session.client) Store.Kept :=
      (h.listAll .cluster ∅).bind fun _ => (h.listAll .project ∅).bind fun _ => .pure _
    exact hload.bind fun d => kept_appRows d apps

/-! ## Up to the create -/

theorem quiet_installTargets (currentProject : Option String) (specifiers : List String) :
    (installTargets currentProject specifiers : Attempt CommandFault (Console Store) _).Keeps id Quiet := by
  refine (quiet_remote (Session.keeps_resolveTargets Store.readsKeep specifiers)).bind fun ids => ?_
  split
  · exact .pure _
  · exact .fail _
  · exact .pure _

theorem quiet_newApp (files : Files) (currentProject : Option String) (r : InstallRequest) :
    (newApp files currentProject r : Attempt CommandFault (Console Store) _).Keeps id Quiet := by
  refine (quiet_lookup .template r.template ∅).bind fun template => ?_
  refine (quiet_ofExcept _).bind fun templateVersionId => ?_
  refine (quiet_byId .templateVersion templateVersionId).bind fun templateVersion => ?_
  refine (quiet_ofExcept _).bind fun collected => ?_
  refine (quiet_interview (!r.noPrompt) _ collected).bind fun flat => ?_
  refine (quiet_installTargets currentProject r.targets).bind fun projectIds => ?_
  exact (quiet_remote (FlatAnswers.keeps_toAnswers Store.readsKeep flat)).bind fun answers => .pure _

end Console

end MultiCluster
