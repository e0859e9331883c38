/-
What an upgrade over HTTP sends back. Up to the update it only asks, so one request replaces a record, and
its body is the app as it was found, read as a record and written again with what the upgrade changes
(`upgrade_returns`). What the record does not know of the app is not sent back (`upgrade_forgets`).
-/
import MultiCluster.Proofs.Command.Console
import MultiCluster.Proofs.Command.Serving
import MultiCluster.Proofs.Lifecycle.Upgrade
import MultiCluster.Proofs.Record.Rewriting
import MultiCluster.Proofs.Rest.Events
namespace MultiCluster

open Event

/-! ## The update -/

namespace RestClient

variable {t t' : Session RestClient}

theorem run_update_eq_ok {kind : Kind} {r r' : kind.Record} (h : (Client.update kind r).run t = (.ok r', t')) :
    ∃ e, t'.client.events = t.client.events ++ [e] ∧ e.replacement? = some (some (kind.toJson r)) := by
  have hupdate : (Client.update kind r : Attempt Fault (Session RestClient) _) =
    Session.onClient (fetch kind.ofTree? .put (fun c => c.recordUrl kind (kind.id r)) none (some (kind.toJson r))
      (missingRecord kind r)) := rfl
  rw [hupdate] at h
  obtain ⟨hput, -⟩ := Session.run_onClient_eq_ok h
  obtain ⟨request, reply, hmethod, hbody, hevents, -⟩ := run_fetch_eq_ok hput
  exact ⟨.request request reply, hevents, by rw [replacement?, if_pos hmethod, hbody]⟩

/-- An upgrade that succeeds replaces one record, by the app with what it changes. -/
theorem run_upgrade_eq_ok {app a : App} {flat : FlatAnswers} {version : String} {specifiers : List String}
    (h : (app.upgrade flat version specifiers).run t = (.ok a, t')) :
    ∃ es templateVersionId answers targets, t'.client.events = t.client.events ++ es ∧
      replacements es = [some (App.toJson { app with templateVersionId, answers, targets })] := by
  obtain ⟨answers, _, current, _, _, projectIds, t₄, -, -, -, -, ⟨es, hes, hnone⟩, hupdate⟩ :=
    App.upgrade_submits readsKeep h
  obtain ⟨e, hevents, he⟩ := run_update_eq_ok hupdate
  refine ⟨es ++ [e], TemplateVersion.replaceVersion current.id current.version version, answers,
    if projectIds.isEmpty then app.targets else App.targetsOf projectIds, ?_, ?_⟩
  · rw [hevents, ← List.append_assoc]
    exact congrArg (· ++ [e]) hes
  · rw [replacements_append, hnone, replacements, List.filterMap_cons_some he]
    rfl

end RestClient

/-! ## The command -/

/-- The command finds the app and sends it back. -/
theorem Console.run_upgrade_returns {files : Files} {format : Format} {r : UpgradeRequest} {c c' : Console RestClient}
    (hv : r.showVersions = false) (h : (Console.upgrade files format r).run c = (.ok (), c')) :
    ∃ es o body, c'.session.client.events = c.session.client.events ++ es ∧ foundIn es = some o ∧
      replacements es = [some body] ∧ App.Returned o body := by
  obtain ⟨a, client, flat, version, b, hlookup, -, hupgrade⟩ := Console.run_upgrade_steps hv h
  obtain ⟨es, o, hes, hfound, ho⟩ := RestClient.foundIn_of_lookup hlookup
  obtain ⟨es', hes', hnone⟩ := (RestClient.readsKeep.lookup .app r.app ∅).of_run hlookup
  obtain rfl : es = es' := List.append_cancel_left (hes.symm.trans hes')
  obtain ⟨more, templateVersionId, answers, targets, hmore, hone⟩ := RestClient.run_upgrade_eq_ok hupgrade
  refine ⟨es ++ more, o, _, ?_, foundIn_append hfound more, ?_, App.returned ho templateVersionId answers targets⟩
  · rw [hmore, ← List.append_assoc]
    exact congrArg (· ++ more) hes
  · rw [replacements_append, hnone, hone]
    rfl

/-- An upgrade over HTTP that succeeds found one app and sends one request that replaces a record. Its body
is the app as the server sent it, by name or by ID, but for its version, its answers and its targets, for
members that are blank, and for those that no record of an app has. -/
theorem Program.upgrade_returns {x : Surroundings} {server : Rest.Server} {i : Invocation} {r : UpgradeRequest}
    (hparse : Invocation.parse x.environment x.words = .ok i) (hcommand : i.command = some (.upgrade r))
    (hv : r.showVersions = false) (hrun : (Program.run x server).complaint = none) :
    ∃ o body, foundIn (Program.run x server).events = some o ∧
    replacements (Program.run x server).events = [some body] ∧
      App.Returned o body := by
  cases hconfig : i.resolveConfig x.files x.home with
  | error f =>
    simp only [Program.run, hparse, hconfig] at hrun
    cases hrun
  | ok config =>
    rcases hserve : (i.run x.files config).run
      { session := { client := RestClient.connect config.serverUrl config.token server },
        terminal := { input := x.input } } with ⟨e | u, c⟩
    all_goals rw [Program.run_eq_serve server hparse hconfig, Surroundings.serve_of_ok hparse hconfig _ hserve] at *
    · cases hrun
    · rw [Invocation.run, Attempt.run_bind_ok (Attempt.run_modify _ _), hcommand] at hserve
      obtain ⟨es, o, body, hes, hfound, hone, hreturned⟩ := Console.run_upgrade_returns hv hserve
      obtain rfl : es = c.session.client.events := by rw [hes]; rfl
      exact ⟨o, body, hfound, hone, hreturned⟩

/-! ## A shop -/

/-- A success with a text as its body. -/
def Rest.Reply.ofText (text : String) : Rest.Reply := .response 200 text.toUTF8.toList

/-- What a program finds that is to upgrade the app of a reference. -/
def Surroundings.upgrading (reference : String) : Surroundings where
  files := ⟨fun _ => .error .missing⟩
  words := ["-s", "http://h", "upgrade", reference, "1.1.0"]

/-- What the server replies where no app has the name that is asked for, and one has the ID. -/
def Rest.Server.knowingId : Rest.Server where
  replies := [.ofText "\x7b\x7d", .ofText "\x7b\"id\":\"a-1\",\"state\":\"active\"\x7d",
    .ofText "\x7b\"version\":\"1.0.0\"\x7d", .ofText "\x7b\x7d"]

/-- An app that is found by its ID is sent back. -/
theorem Program.upgrade_returns_byId :
    (Program.run (.upgrading "a-1") .knowingId).complaint = none ∧
      ∃ o body, foundIn (Program.run (.upgrading "a-1") .knowingId).events = some o ∧
        replacements (Program.run (.upgrading "a-1") .knowingId).events = [some body] ∧ App.Returned o body := by
  have hparse : Invocation.parse (Surroundings.upgrading "a-1").environment (Surroundings.upgrading "a-1").words =
      .ok { server := some "http://h", command := some (.upgrade { app := "a-1", version := some "1.1.0" }) } := by cbv
  have hrun : (Program.run (.upgrading "a-1") .knowingId).complaint = none := by decide +kernel
  exact ⟨hrun, Program.upgrade_returns (x := .upgrading "a-1") hparse rfl rfl hrun⟩

/-- What the server replies where an app has a description, a state that is blank, and in its status a member
that no record has. -/
def Rest.Server.describing : Rest.Server where
  replies := [
    .ofText ("\x7b\"data\":[\x7b\"id\":\"a-1\",\"name\":\"shop\",\"state\":\"\",\"description\":\"storefront\"," ++
      "\"status\":\x7b\"observed\":\"2\"\x7d\x7d]\x7d"),
    .ofText "\x7b\"id\":\"shop-1.0.0\",\"version\":\"1.0.0\"\x7d",
    .ofText "\x7b\x7d"]

/-- The description, the blank state and that member of the status are not sent back. -/
theorem Program.upgrade_forgets :
    (Program.run (.upgrading "shop") .describing).complaint = none ∧
      ∃ o ∈ foundIn (Program.run (.upgrading "shop") .describing).events,
      ∃ sent ∈ replacements (Program.run (.upgrading "shop") .describing).events, ∃ body ∈ sent,
        ((∃ v, o.Has "description" v ∧ Wire.text? v = some "storefront") ∧ body.member? "description" = none) ∧
        ((∃ v, o.Has "state" v ∧ Wire.text? v = some "") ∧ body.member? "state" = none) ∧
        (∃ v, o.Has "status" v ∧ ∃ w, v.Has "observed" w ∧ Wire.text? w = some "2") ∧
          (body.member? "status").bind (·.member? "observed") = none := by
  decide +kernel

end MultiCluster
