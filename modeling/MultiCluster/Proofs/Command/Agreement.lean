/-
Commands side by side. On consoles that differ in nothing but clients that agree, every command ends alike
and leaves such consoles (`Command.agree_run`). So command lines that are given one after the other end alike too
(`Surroundings.agree_serveAll`).
-/
import MultiCluster.Command.Run
import MultiCluster.Proofs.Command.Console
import MultiCluster.Proofs.Command.Serving
import MultiCluster.Proofs.Session.Agreement
namespace MultiCluster

variable {σ τ : Type} {R : σ → τ → Prop}

namespace Console

/-- Consoles with the same terminal and output, whose sessions are alike. -/
structure Alike (R : σ → τ → Prop) (c : Console σ) (d : Console τ) : Prop where
  session : Session.Alike R c.session d.session
  terminal : c.terminal = d.terminal
  output : c.output = d.output

theorem agree_remote {α : Type} {x : Attempt Fault (Session σ) α} {y : Attempt Fault (Session τ) α}
    (h : Attempt.Agree (Session.Alike R) x y) :
    Attempt.Agree (Alike R) (remote x) (remote y) := by
  refine Attempt.Agree.mapError (Attempt.Agree.within h ?_ ?_) CommandFault.api
  · exact fun _ _ hcd => hcd.session
  · exact fun _ _ _ _ hcd hst => ⟨hst, hcd.terminal, hcd.output⟩

theorem agree_print (format : Format) (r : Report) : Attempt.Agree (Alike R) (print format r) (print format r) :=
  .modify fun _ _ hcd => ⟨hcd.session, hcd.terminal, congrArg (· ++ r.render format) hcd.output⟩

theorem agree_interview (prompting : Bool) (questions : List Question) (answers : FlatAnswers) :
    Attempt.Agree (Alike R) (interview prompting questions answers) (interview prompting questions answers) := by
  intro c d hcd
  rw [run_interview, run_interview, hcd.terminal]
  exact ⟨rfl, hcd.session, rfl, hcd.output⟩

theorem agree_link (links : Dict String) (name owner : String) :
    Attempt.Agree (Alike R) (link links name owner) (link links name owner) := by
  unfold link
  split
  · exact .pure _
  · exact .fail _

variable [Client σ] [Client τ] (h : Client.Agrees R)
include h

/-! ## Commands that show -/

theorem agree_findApp (reference : String) : Attempt.Agree (Alike R) (findApp reference) (findApp reference) :=
  agree_remote ((Session.agrees h).lookup .app reference ∅)

theorem agree_appRows (d : Directory) (apps : List App) :
    Attempt.Agree (Session.Alike R) (appRows d apps) (appRows d apps) := by
  induction apps with
  | nil => exact .pure _
  | cons a r ih =>
    refine .bind ?_ fun row => ih.bind fun _ => .pure _
    unfold appRow
    split
    · exact .bind (.pure "") fun _ => .pure _
    · exact (Session.agree_versionOf h a.templateVersionId).bind fun _ => .pure _

theorem agree_listApps (quiet : Bool) : Attempt.Agree (Session.Alike R) (listApps quiet) (listApps quiet) := by
  have hs := Session.agrees h
  refine .bind (hs.listAll .app ∅) fun apps => ?_
  dsimp only
  split
  · exact .pure _
  · refine .bind ?_ fun d => agree_appRows h d apps
    exact (hs.listAll .cluster ∅).bind fun _ => (hs.listAll .project ∅).bind fun _ => .pure _

theorem agree_ls (format : Format) (quiet : Bool) : Attempt.Agree (Alike R) (ls format quiet) (ls format quiet) :=
  (agree_remote (agree_listApps h quiet)).bind fun _ => agree_print format _

theorem agree_revisionsOf (a : App) : Attempt.Agree (Alike R) (revisionsOf a) (revisionsOf a) := by
  refine (agree_link _ _ _).bind fun url => ?_
  refine (agree_remote ?_).bind fun revisions => .ofExcept _
  exact ((Session.agrees h).follow _ url).bind fun first => (Session.agrees h).drain .revision first

theorem agree_versionsOf (a : App) : Attempt.Agree (Alike R) (versionsOf a) (versionsOf a) := by
  refine (agree_remote ((Session.agrees h).answer (.byId .templateVersion _) not_false)).bind fun current => ?_
  refine (agree_link _ _ _).bind fun url => ?_
  exact (agree_remote ((Session.agrees h).follow _ url)).bind fun template => .ofExcept _

theorem agree_showApp (format : Format) (reference : String) :
    Attempt.Agree (Alike R) (showApp format reference) (showApp format reference) :=
  (agree_findApp h reference).bind fun a => (agree_revisionsOf h a).bind fun _ => (agree_versionsOf h a).bind fun _ =>
    agree_print format _

theorem agree_listTemplates (format : Format) (catalog : Option String) :
    Attempt.Agree (Alike R) (listTemplates format catalog) (listTemplates format catalog) := by
  refine .bind ?_ fun filters => ?_
  · cases catalog with
    | none => exact .pure _
    | some reference => exact (agree_remote ((Session.agrees h).lookup .catalog reference ∅)).bind fun _ => .pure _
  · exact (agree_remote ((Session.agrees h).listAll .template filters)).bind fun _ => agree_print format _

theorem agree_showTemplate (format : Format) (reference : String) :
    Attempt.Agree (Alike R) (showTemplate format reference) (showTemplate format reference) :=
  (agree_remote ((Session.agrees h).lookup .template reference ∅)).bind fun _ =>
    Attempt.Agree.bind (.ofExcept _) fun _ => agree_print format _

/-! ## Commands that change -/

theorem agree_delete (format : Format) (references : List String) :
    Attempt.Agree (Alike R) (delete format references) (delete format references) := by
  induction references with
  | nil => exact .pure _
  | cons reference r ih =>
    refine (agree_findApp h reference).bind fun a => ?_
    refine (agree_remote ((Session.agrees h).answer (.delete .app a) not_false)).bind fun _ => ?_
    exact (agree_print format _).bind fun _ => ih

theorem agree_installTargets (currentProject : Option String) (specifiers : List String) :
    Attempt.Agree (Alike R) (installTargets currentProject specifiers) (installTargets currentProject specifiers) := by
  refine (agree_remote (Session.agree_resolveTargets h specifiers)).bind fun ids => ?_
  split
  · exact .pure _
  · exact .fail _
  · exact .pure _

theorem agree_newApp (files : Files) (currentProject : Option String) (r : InstallRequest) :
    Attempt.Agree (Alike R) (newApp files currentProject r) (newApp files currentProject r) := by
  have hs := Session.agrees h
  refine .bind (agree_remote (hs.lookup .template r.template ∅)) fun template => ?_
  refine .bind (.ofExcept _) fun templateVersionId => ?_
  refine .bind (agree_remote (hs.answer (.byId .templateVersion templateVersionId) not_false)) fun version => ?_
  refine .bind (.ofExcept _) fun collected => ?_
  refine .bind (agree_interview _ _ _) fun flat => ?_
  refine .bind (agree_installTargets h currentProject r.targets) fun projectIds => ?_
  exact .bind (agree_remote (FlatAnswers.agree_toAnswers h flat)) fun _ => .pure _

theorem agree_install (files : Files) (currentProject : Option String) (format : Format) (r : InstallRequest) :
    Attempt.Agree (Alike R) (install files currentProject format r) (install files currentProject format r) :=
  (agree_newApp h files currentProject r).bind fun a =>
    (agree_remote (App.agree_install (Session.agrees h) a _)).bind fun _ => agree_print format _

theorem agree_upgrade (files : Files) (format : Format) (r : UpgradeRequest) :
    Attempt.Agree (Alike R) (upgrade files format r) (upgrade files format r) := by
  refine (agree_findApp h r.app).bind fun a => ?_
  split
  · exact (agree_versionsOf h a).bind fun _ => agree_print format _
  · split
    · exact .fail _
    · refine .bind (.ofExcept _) fun answers => ?_
      exact (agree_remote (App.agree_upgrade h a answers _ r.targets)).bind fun _ => agree_print format _

theorem agree_rollback (format : Format) (r : RollbackRequest) :
    Attempt.Agree (Alike R) (rollback format r) (rollback format r) := by
  refine (agree_findApp h r.app).bind fun a => ?_
  split
  · exact (agree_revisionsOf h a).bind fun _ => agree_print format _
  · split
    · exact .fail _
    · refine (agree_remote ((Session.agrees h).lookup .revision _ ∅)).bind fun revision => ?_
      refine (agree_remote ?_).bind fun _ => agree_print format _
      exact (Session.agrees h).answer (.action .app a "rollback" _) not_false

end Console

variable [Client σ] [Client τ] (h : Client.Agrees R)
include h

theorem Command.agree_run (files : Files) (config : Config) (format : Format) (cmd : Command) :
    Attempt.Agree (Console.Alike R) (cmd.run files config format) (cmd.run files config format) := by
  cases cmd with
  | ls quiet => exact Console.agree_ls h format quiet
  | delete apps => exact Console.agree_delete h format apps
  | install r => exact Console.agree_install h files config.currentProject format r
  | upgrade r => exact Console.agree_upgrade h files format r
  | rollback r => exact Console.agree_rollback h format r
  | listTemplates catalog => exact Console.agree_listTemplates h format catalog
  | showTemplate template => exact Console.agree_showTemplate h format template
  | showApp app => exact Console.agree_showApp h format app

theorem Invocation.agree_run (files : Files) (config : Config) (i : Invocation) :
    Attempt.Agree (Console.Alike R) (i.run files config) (i.run files config) := by
  refine .bind (.modify fun c d hcd => ?_) fun _ => Command.agree_run h files config i.format _
  exact ⟨⟨hcd.session.client, rfl, rfl, rfl⟩, hcd.terminal, hcd.output⟩

/-! ## Command lines -/

namespace Surroundings

variable {s : σ} {t : τ}

theorem agree_serve (x : Surroundings) (hst : R s t) :
    (x.serve s).1 = (x.serve t).1 ∧ R (x.serve s).2 (x.serve t).2 := by
  unfold serve
  split
  · exact ⟨rfl, hst⟩
  · rename_i i _
    split
    · exact ⟨rfl, hst⟩
    · rename_i config _
      have hstart : Console.Alike R { session := { client := s }, terminal := { input := x.input } }
          { session := { client := t }, terminal := { input := x.input } } := ⟨⟨hst, rfl, rfl, rfl⟩, rfl, rfl⟩
      obtain ⟨hresult, hend⟩ := Invocation.agree_run h x.files config i _ _ hstart
      refine ⟨?_, hend.session.client⟩
      simp only [Console.result, hresult, hend.output, hend.terminal]

theorem agree_serveAll (runs : List Surroundings) (hst : R s t) :
    (serveAll runs s).1 = (serveAll runs t).1 ∧ R (serveAll runs s).2 (serveAll runs t).2 := by
  induction runs generalizing s t with
  | nil => exact ⟨rfl, hst⟩
  | cons x r ih =>
    obtain ⟨hfirst, hnext⟩ := agree_serve h x hst
    obtain ⟨hrest, hend⟩ := ih hnext
    refine ⟨?_, hend⟩
    show (x.serve s).1 :: (serveAll r (x.serve s).2).1 = (x.serve t).1 :: (serveAll r (x.serve t).2).1
    rw [hfirst, hrest]

end Surroundings

end MultiCluster
