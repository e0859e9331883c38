/-
Deleting apps one after the other. Each reference is looked up in what the deletes before it left (`Deletes`):
a name that two apps share stands for the second of them once the first is gone, and an app that is gone is not
found again. So a delete takes a prefix of its references, up to the first that stands for no app, and removes the
app of each and nothing else (`Console.run_delete_prefix`).
-/
import MultiCluster.Proofs.Command.Footprint
import MultiCluster.Proofs.Report.Listing
namespace MultiCluster

namespace Store

variable {s : Store} {kind : Kind} {id : String}

/-! ## Without some apps -/

/-- The store after these apps were deleted, one after the other. -/
def without (apps : List App) (s : Store) : Store := s.replay (apps.map fun a => .deleted .app a.id)

@[simp] theorem without_nil (s : Store) : s.without [] = s := rfl

@[simp] theorem without_cons (a : App) (apps : List App) (s : Store) :
    s.without (a :: apps) = (s.replayed (.deleted .app a.id)).without apps := rfl

theorem log_without (apps : List App) (s : Store) :
    (s.without apps).log = s.log ++ apps.map fun a => .deleted .app a.id := log_replay s _

theorem get?_replayed_deleted (kind' : Kind) (id' : String) (s : Store) :
    (s.replayed (.deleted kind' id')).get? kind id = if kind = kind' ∧ id = id' then none else s.get? kind id := by
  by_cases hkind : kind = kind'
  · subst hkind
    simp [replayed, record, get?, Dict.get?_erase, eq_comm]
  · rw [if_neg fun h => hkind h.1]
    simp only [replayed, record, get?, ByKind.get_set_of_ne _ _ hkind]

/-- The records of these apps are gone, and no other. -/
theorem get?_without (apps : List App) (s : Store) :
    (s.without apps).get? kind id = if kind = .app ∧ id ∈ apps.map App.id then none else s.get? kind id := by
  induction apps generalizing s with
  | nil => simp
  | cons a apps ih =>
    rw [without_cons, ih, get?_replayed_deleted]
    by_cases hkind : kind = .app
    · by_cases hid : id = a.id <;> simp [hkind, hid]
    · simp [hkind]

theorem Unscripted.without (h : s.Unscripted kind) (apps : List App) : (s.without apps).Unscripted kind := by
  induction apps generalizing s with
  | nil => exact h
  | cons a apps ih => exact ih (s := s.replayed (.deleted .app a.id)) h

theorem Keyed.replayed_deleted (hk : s.Keyed) (kind : Kind) (id : String) : (s.replayed (.deleted kind id)).Keyed :=
  Keyed.congr (hk.erase kind id) rfl

/-! ## One reference after the other -/

/-- Apps are deleted from `s` for one reference after the other, until one of them stands for none. -/
inductive Deletes : Store → List String → List App → Except Fault Unit → Prop
  | all (s : Store) : Deletes s [] [] (.ok ())
  | stopped {s : Store} {reference : String} {rest : List String} {e : Fault}
      (hfound : s.lookedUp .app reference ∅ = .error e) : Deletes s (reference :: rest) [] (.error e)
  | removed {s : Store} {reference : String} {rest : List String} {a : App} {apps : List App} {r : Except Fault Unit}
      (hfound : s.lookedUp .app reference ∅ = .ok a) (hrest : Deletes (s.replayed (.deleted .app a.id)) rest apps r) :
      Deletes s (reference :: rest) (a :: apps) r

/-- What an app is found by is its name or its ID. -/
theorem named_of_lookedUp (hk : s.Keyed) {reference : String} {a : App} (h : s.lookedUp .app reference ∅ = .ok a) :
    s.get? .app a.id = some a ∧ (a.name = reference ∨ a.id = reference) := by
  obtain ⟨-, hstored, hname | ⟨hid, -⟩⟩ := lookedUp_eq_ok hk h
  · exact ⟨hstored, .inl ((Kind.matchesAll_name (Kind.textAt_app_name a)).1 ((hname a hstored).2 rfl))⟩
  · exact ⟨hstored, .inr hid⟩

namespace Deletes

variable {references : List String} {apps : List App} {r : Except Fault Unit}

/-- The app deleted for a reference is what it stands for once those before it are gone. -/
theorem found (h : Deletes s references apps r) (hk : s.Keyed) {i : Nat} {a : App} (ha : apps[i]? = some a) :
    ∃ reference, references[i]? = some reference ∧ (s.without (apps.take i)).lookedUp .app reference ∅ = .ok a ∧
      (a.name = reference ∨ a.id = reference) := by
  induction h generalizing i with
  | all s => cases ha
  | stopped => cases ha
  | @removed s reference rest a' apps r hfound hrest ih =>
    cases i with
    | zero =>
      cases ha
      exact ⟨reference, rfl, hfound, (named_of_lookedUp hk hfound).2⟩
    | succ i => exact ih (hk.replayed_deleted .app a'.id) ha

/-- It ends with the last reference, or with the first that stands for no app. -/
theorem ended (h : Deletes s references apps r) :
    (apps.length = references.length ∧ r = .ok ()) ∨
      ∃ reference e, references[apps.length]? = some reference ∧
        (s.without apps).lookedUp .app reference ∅ = .error e ∧ r = .error e := by
  induction h with
  | all s => exact .inl ⟨rfl, rfl⟩
  | @stopped s reference rest e hfound => exact .inr ⟨reference, e, rfl, hfound, rfl⟩
  | removed hfound hrest ih =>
    rcases ih with ⟨hlength, hr⟩ | hstopped
    · exact .inl ⟨congrArg Nat.succ hlength, hr⟩
    · exact .inr hstopped

/-- Every app deleted was one of the store's, and none is deleted twice. -/
theorem distinct (h : Deletes s references apps r) (hk : s.Keyed) :
    (∀ a ∈ apps, s.get? .app a.id = some a) ∧ (apps.map App.id).Nodup := by
  induction h with
  | all s => exact ⟨nofun, List.nodup_nil⟩
  | stopped => exact ⟨nofun, List.nodup_nil⟩
  | @removed s reference rest a apps r hfound hrest ih =>
    obtain ⟨hstored, hnodup⟩ := ih (hk.replayed_deleted .app a.id)
    have hlater : ∀ b ∈ apps, b.id ≠ a.id ∧ s.get? .app b.id = some b := by
      intro b hb
      have hget := hstored b hb
      rw [get?_replayed_deleted] at hget
      by_cases hid : b.id = a.id
      · rw [if_pos ⟨rfl, hid⟩] at hget
        cases hget
      · rw [if_neg fun h => hid h.2] at hget
        exact ⟨hid, hget⟩
    refine ⟨?_, ?_⟩
    · rintro b (_ | ⟨_, hb⟩)
      · exact (named_of_lookedUp hk hfound).1
      · exact (hlater b hb).2
    · rw [List.map_cons, List.nodup_cons]
      refine ⟨fun hmem => ?_, hnodup⟩
      obtain ⟨b, hb, hid⟩ := List.mem_map.1 hmem
      exact (hlater b hb).1 hid

end Deletes

end Store

/-! ## The command -/

namespace Console

open Store (Deletes)

variable {format : Format} {references : List String} {c c' : Console Store} {o : Except CommandFault Unit}

/-- A delete of an app that is there. -/
theorem run_remote_delete_of_stored {a : App} (h : c.session.client.get? .app a.id = some a) :
    (remote (Client.delete .app a)).run c =
      (.ok (), { c with session := { c.session with client := c.session.client.replayed (.deleted .app a.id) } }) := by
  have hdelete : c.session.client.delete .app a = (.ok (), c.session.client.replayed (.deleted .app a.id)) := by
    show Store.delete Kind.app a c.session.client = _
    rw [Store.delete]
    have hid : c.session.client.get? .app (Kind.id .app a) = some a := h
    rw [hid]
    rfl
  rw [run_remote_delete, hdelete]
  rfl

/-- A run deletes what the records at its beginning let it delete, and confirms each. -/
theorem deletes_of_run {s : Store} (hk : s.Keyed) (hscript : s.Unscripted .app) (hkept : s.Kept c.session.client)
    (h : (delete format references).run c = (o, c')) :
    ∃ apps r, Deletes s references apps r ∧ o = r.mapError .api ∧ (s.without apps).Kept c'.session.client ∧
      c'.output = c.output ++ String.join (apps.map fun a => format.confirmation ("Deleted " ++ a.name)) := by
  induction references generalizing s c with
  | nil =>
    cases h
    exact ⟨[], .ok (), .all s, rfl, hkept, by simp⟩
  | cons reference references ih =>
    obtain ⟨t, hlookup, hread⟩ := run_findApp hkept hscript reference
    unfold delete at h
    rcases hfound : s.lookedUp .app reference ∅ with e | a <;> rw [hfound] at hlookup
    · rw [Attempt.run_bind_error hlookup] at h
      cases h
      exact ⟨[], .error e, .stopped hfound, rfl, hkept.trans hread, by simp⟩
    · rw [Attempt.run_bind_ok hlookup] at h
      have hstored : t.get? .app a.id = some a := by
        rw [(hkept.trans hread).get?_eq]
        exact (Store.named_of_lookedUp hk hfound).1
      rw [Attempt.run_bind_ok (run_remote_delete_of_stored hstored)] at h
      obtain ⟨apps, r, hdeletes, ho, hrest, houtput⟩ := ih (hk.replayed_deleted .app a.id) hscript
        ((hkept.trans hread).replayed (.deleted .app a.id)) h
      refine ⟨a :: apps, r, .removed hfound hdeletes, ho, hrest, ?_⟩
      rw [houtput, List.map_cons, String.join_cons, ← String.append_assoc, ← Report.render_message]

/-- What is known of a delete that removed these apps: they are those of the first of its references, each found in
what was left once those before it were gone. -/
structure DeletesFirst (format : Format) (references : List String) (c : Console Store) (o : Except CommandFault Unit)
    (c' : Console Store) (apps : List App) : Prop where
  found : ∀ i a, apps[i]? = some a → ∃ reference, references[i]? = some reference ∧
    ((Client.lookup .app reference ∅).run (c.session.client.without (apps.take i))).1 = .ok a ∧
    (a.name = reference ∨ a.id = reference)
  ended : (apps.length = references.length ∧ o = .ok ()) ∨ ∃ reference e, references[apps.length]? = some reference ∧
    ((Client.lookup .app reference ∅).run (c.session.client.without apps)).1 = .error e ∧ o = .error (.api e)
  stored : ∀ a ∈ apps, c.session.client.get? .app a.id = some a
  distinct : (apps.map App.id).Nodup
  records : ∀ kind id, c'.session.client.get? kind id =
    if kind = .app ∧ id ∈ apps.map App.id then none else c.session.client.get? kind id
  logged : c'.session.client.log = c.session.client.log ++ apps.map fun a => .deleted .app a.id
  output : c'.output = c.output ++ String.join (apps.map fun a => format.confirmation ("Deleted " ++ a.name))

/-- A delete removes the apps of the first of its references: of each the app it stands for, by its name or its ID,
once those before it are gone. It succeeds if these are all its references; else it fails as the lookup of the next
one does. All other records are as they were, and each app that was removed is confirmed in its turn. -/
theorem run_delete_prefix (hreach : c.session.client.Reachable) (hscript : c.session.client.Unscripted .app)
    (h : (delete format references).run c = (o, c')) : ∃ apps, DeletesFirst format references c o c' apps := by
  have hk := hreach.keyed
  obtain ⟨apps, r, hdeletes, rfl, hkept, houtput⟩ := deletes_of_run hk hscript (.refl _) h
  have hlookup : ∀ before reference, ((Client.lookup .app reference ∅).run (c.session.client.without before)).1 =
      (c.session.client.without before).lookedUp .app reference ∅ := by
    intro before reference
    obtain ⟨t, hrun, -⟩ := Store.run_lookup (hscript.without before reference) ∅
    rw [hrun]
  obtain ⟨hstored, hdistinct⟩ := hdeletes.distinct hk
  refine ⟨apps, ?found, ?ended, hstored, hdistinct, ?records, ?logged, houtput⟩
  case found =>
    intro i a ha
    obtain ⟨reference, hreference, hfound, hnamed⟩ := hdeletes.found hk ha
    exact ⟨reference, hreference, (hlookup _ _).trans hfound, hnamed⟩
  case ended =>
    rcases hdeletes.ended with ⟨hlength, rfl⟩ | ⟨reference, e, hreference, hfound, rfl⟩
    · exact .inl ⟨hlength, rfl⟩
    · exact .inr ⟨reference, e, hreference, (hlookup _ _).trans hfound, rfl⟩
  case records =>
    intro kind id
    rw [hkept.get?_eq, Store.get?_without]
  case logged => rw [hkept.log, Store.log_without]

/-- Two apps of one name. -/
def shops : Store := Store.insertAll .app [{ id := "a-1", name := "shop" }, { id := "a-2", name := "shop" }] {}

/-- The name stands for the second app once the first was deleted by its ID, and then for none. Each of the two is
confirmed, in either format. -/
theorem run_delete_prefix_shops :
    (∃ c', (delete .table ["a-1", "shop", "shop"]).run ({ session := { client := shops } } : Console Store) =
        (.error (.api (.notFound .app "shop")), c') ∧
      c'.session.client.deleted = [(.app, "a-1"), (.app, "a-2")] ∧
      c'.output = "✓ Deleted shop\n✓ Deleted shop\n" ∧
      ∃ apps, DeletesFirst .table ["a-1", "shop", "shop"] { session := { client := shops } }
        (.error (.api (.notFound .app "shop"))) c' apps) ∧
    ∃ c', (delete .json ["a-2", "a-2"]).run ({ session := { client := shops } } : Console Store) =
        (.error (.api (.notFound .app "a-2")), c') ∧
      c'.output = "\x7b\n  \"message\": \"Deleted shop\"\n\x7d\n" ∧
      ∃ apps, DeletesFirst .json ["a-2", "a-2"] { session := { client := shops } }
        (.error (.api (.notFound .app "a-2"))) c' apps := by
  have hreach : shops.Reachable := Store.reachable_insertAll .empty
  have hscript : shops.Unscripted .app := fun id => Store.scriptOf_insertAll .app id
  constructor
  · have hrun : (delete .table ["a-1", "shop", "shop"]).run ({ session := { client := shops } } : Console Store) =
        (.error (.api (.notFound .app "shop")), _) := Prod.ext (by cbv) rfl
    exact ⟨_, hrun, by cbv, by cbv, run_delete_prefix hreach hscript hrun⟩
  · have hrun : (delete .json ["a-2", "a-2"]).run ({ session := { client := shops } } : Console Store) =
        (.error (.api (.notFound .app "a-2")), _) := Prod.ext (by cbv) rfl
    exact ⟨_, hrun, by cbv, run_delete_prefix hreach hscript hrun⟩

end Console

end MultiCluster
