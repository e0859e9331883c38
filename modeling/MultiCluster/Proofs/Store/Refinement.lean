/-
The store of written records as a map of records. The same moves take it and the store of records, step by step, from
one to the written form of the other (`Traffic.run_written`), so it holds after any history what was last written under
each ID, as JSON, and its calls answer accordingly (`JsonTraffic.after_recalls`). Command lines cannot tell the two
apart (`Surroundings.serveAll_written`).
-/
import MultiCluster.Proofs.Command.Agreement
import MultiCluster.Proofs.Store.History
import MultiCluster.Proofs.Store.Written
namespace MultiCluster

/-! ## Moves -/

/-- A store of written records with the listings that were started on it. -/
structure JsonTraffic where
  store : JsonStore
  listings : List Listing := []

namespace JsonTraffic

/-- A listing starts with the page that is given, if it can be read. -/
def start (kind : Kind) (filters : Dict String) (t : JsonTraffic) : JsonTraffic :=
  match (Client.list kind filters).run t.store with
  | (.ok p, s) => { store := s, listings := t.listings ++ [⟨kind, [p]⟩] }
  | (.error _, s) => { t with store := s }

/-- A listing gets the page behind its last one, if there is one and it can be read. -/
def advance (i : Nat) (t : JsonTraffic) : JsonTraffic :=
  match t.listings[i]? with
  | none => t
  | some l =>
    match (Client.next l.kind l.last).run t.store with
    | (.ok (some p), s) => { store := s, listings := t.listings.set i ⟨l.kind, l.pages ++ [p]⟩ }
    | (_, s) => { store := s, listings := t.listings.set i l }

def step (t : JsonTraffic) : Move → JsonTraffic
  | .start kind filters => t.start kind filters
  | .advance i => t.advance i
  | .paged size => { t with store := { t.store with pageSize := some size } }
  | .inserted kind r => { t with store := t.store.insert kind r }
  | .scripted kind id responses => { t with store := t.store.script kind id responses }
  | .linked url body => { t with store := t.store.insertLink url body }
  | .called c => { t with store := ((Client.answer c).run t.store).2 }
  | .lookup kind reference filters => { t with store := ((Client.lookup kind reference filters).run t.store).2 }

def run (t : JsonTraffic) (moves : List Move) : JsonTraffic := moves.foldl step t

/-- The store and its listings after a history that began with nothing. -/
def after (history : List Move) : JsonTraffic := (JsonTraffic.mk {} []).run history.reverse

end JsonTraffic

/-! ## One store and the other -/

/-- What is asked of a written store agrees with what is asked of the store. -/
theorem Store.agrees_written : Client.Agrees fun (s : Store) (j : JsonStore) => j = s.written := by
  refine .of_answer fun c s j h => ?_
  rw [h, answer_written]
  exact ⟨rfl, rfl⟩

namespace Traffic

variable {t : Traffic}

/-- The traffic with the records of its store written. -/
def written (t : Traffic) : JsonTraffic := ⟨t.store.written, t.listings⟩

theorem start_written (kind : Kind) (filters : Dict String) (t : Traffic) :
    t.written.start kind filters = (t.step (.start kind filters)).written := by
  have hlist : (Client.list kind filters).run t.store.written = _ := Store.list_written kind filters t.store
  unfold JsonTraffic.start
  rw [written, hlist]
  rfl

theorem advance_written (i : Nat) (t : Traffic) : t.written.advance i = (t.step (.advance i)).written := by
  have hlistings : t.written.listings = t.listings := rfl
  unfold JsonTraffic.advance step
  dsimp only
  rw [hlistings]
  cases t.listings[i]? with
  | none => rfl
  | some l =>
    have hnext : (Client.next l.kind l.last).run t.written.store = _ := Store.next_written l.kind l.last t.store
    dsimp only
    rw [hnext]
    unfold Listing.advance
    rcases t.store.next l.kind l.last with ⟨_ | _ | p, s⟩ <;> rfl

/-- A move takes the written traffic to what it takes the traffic to, written. -/
theorem step_written (m : Move) (t : Traffic) : t.written.step m = (t.step m).written := by
  cases m with
  | start kind filters => exact start_written kind filters t
  | advance i => exact advance_written i t
  | paged | linked => rfl
  | inserted kind r => exact congrArg (JsonTraffic.mk · t.listings) (Store.written_insert kind r t.store).symm
  | scripted kind id responses =>
    exact congrArg (JsonTraffic.mk · t.listings) (Store.written_script kind id responses t.store).symm
  | called c => exact congrArg (JsonTraffic.mk ·.2 t.listings) (Store.answer_written c t.store)
  | lookup kind reference filters =>
    exact congrArg (JsonTraffic.mk · t.listings) (Store.agrees_written.lookup kind reference filters t.store _ rfl).2

theorem run_written (moves : List Move) (t : Traffic) : t.written.run moves = (t.run moves).written := by
  induction moves generalizing t with
  | nil => rfl
  | cons m moves ih =>
    show (t.written.step m).run moves = _
    rw [step_written, ih, run_cons]

end Traffic

theorem JsonTraffic.after_eq_written (history : List Move) : after history = (Traffic.after history).written := by
  have hempty : JsonTraffic.mk {} [] = (Traffic.mk {} []).written :=
    congrArg (JsonTraffic.mk · []) Store.written_empty.symm
  rw [after, hempty, Traffic.run_written]
  rfl

/-! ## What the calls tell of a history -/

namespace JsonStore

/-- What is scripted for the next fetches of an ID. -/
def scriptOf (kind : Kind) (id : String) (j : JsonStore) : List Json := ((j.scripts.get kind).get? id).getD []

/-- What a call may not touch when it fails: the records and the four logs. -/
structure SameRecords (j j' : JsonStore) : Prop where
  records : j'.records = j.records
  createLog : j'.createLog = j.createLog
  updateLog : j'.updateLog = j.updateLog
  deleted : j'.deleted = j.deleted
  actions : j'.actions = j.actions

/-- The store and its calls tell of the history what a map of records does. -/
structure Recalls (history : List Move) (j : JsonStore) : Prop where
  /-- What is kept under an ID is the record last written there, as JSON. -/
  kept : ∀ kind id v, (j.records.get kind).get? id = some v ↔ ∃ r, LastWritten kind id history r ∧ v = kind.toJson r
  get : ∀ kind id r, j.get? kind id = some r ↔ LastWritten kind id history r
  fetched : ∀ kind id, j.scriptOf kind id = [] → ∀ r,
    ((Client.byId kind id).run j).1 = .ok r ↔ LastWritten kind id history r
  missing : ∀ kind id, j.scriptOf kind id = [] → ∀ e,
    ((Client.byId kind id).run j).1 = .error e ↔ e = .notFound kind id ∧ ¬ ∃ r, LastWritten kind id history r
  /-- A record lies under its own ID. -/
  own : ∀ kind id r, LastWritten kind id history r → kind.id r = id
  /-- What is created is logged as it came. Without an ID it is kept with the next one, and alike in all else. -/
  created : ∀ kind r, ∃ stored j', (Client.create kind r).run j = (.ok stored, j') ∧
    j'.createLog = j.createLog ++ [(kind, kind.toJson r)] ∧ j'.created kind = j.created kind ++ [r] ∧
    (kind.id r ≠ "" → stored = r) ∧
    (kind.id r = "" → stored = kind.withId r (Move.nextId kind history) ∧ ∀ name, (kind.toJson stored).member? name =
      if name = "id" then some (.text (Move.nextId kind history)) else (kind.toJson r).member? name)
  updates : ∀ kind r e, ((Client.update kind r).run j).1 = .error e ↔
    e = .notFound kind (kind.id r) ∧ ¬ ∃ old, LastWritten kind (kind.id r) history old
  updated : ∀ kind r r' j', (Client.update kind r).run j = (.ok r', j') →
    r' = r ∧ j'.updated kind = j.updated kind ++ [r]
  deletes : ∀ kind r e, ((Client.delete kind r).run j).1 = .error e ↔
    e = .notFound kind (kind.id r) ∧ ¬ ∃ old, LastWritten kind (kind.id r) history old
  /-- Listings can be read. -/
  listed : ∀ kind filters, ∃ p, ((Client.list kind filters).run j).1 = .ok p
  /-- Nothing in the logs is passed over when they are read. -/
  logged : ∀ e ∈ j.createLog ++ j.updateLog, ∃ r, e.1.ofJson? e.2 = some r
  failing : ∀ c e j', (Client.answer c).run j = (.error e, j') → j.SameRecords j'
  /-- Where a link cannot be read, nothing changes either. -/
  following : ∀ (α : Type) (read : Json.Tree → Option α) (url : String), ((Client.follow read url).run j).2 = j

end JsonStore

theorem Store.scriptOf_written (kind : Kind) (id : String) (s : Store) :
    s.written.scriptOf kind id = (s.scriptOf kind id).map kind.toJson := by
  rw [JsonStore.scriptOf, written, ByKind.get_map, Dict.get?_map, scriptOf]
  cases (s.scripts.get kind).get? id <;> rfl

/-- What is written alike is kept alike. -/
theorem JsonStore.SameRecords.of_store {s t : Store} (h : t.records = s.records ∧ t.log = s.log) :
    s.written.SameRecords t.written := by
  constructor <;> simp only [Store.written, Store.deleted, Store.actions, h.1, h.2]

/-- What was logged can be read. -/
theorem Store.logged_written (s : Store) :
    ∀ e ∈ s.written.createLog ++ s.written.updateLog, ∃ r, e.1.ofJson? e.2 = some r := by
  intro e he
  rcases List.mem_append.1 he with he | he
  all_goals
    obtain ⟨c, -, hc⟩ := List.mem_filterMap.1 he
    cases c <;> cases hc
    exact ⟨_, Kind.ofJson?_toJson _ _⟩

theorem Move.nextId_ne_empty (kind : Kind) (history : List Move) : nextId kind history ≠ "" := by
  simp [nextId]

theorem Store.createLog_create (kind : Kind) (r : kind.Record) (s : Store) :
    (s.create kind r).2.written.createLog = s.written.createLog ++ [(kind, kind.toJson r)] := by
  show (s.create kind r).2.log.filterMap Change.created? = _
  rw [log_create, List.filterMap_append]
  rfl

theorem Store.created_create (kind : Kind) (r : kind.Record) (s : Store) :
    (s.create kind r).2.written.created kind = s.written.created kind ++ [r] := by
  rw [created_written, created_written, created, log_create, List.filterMap_append]
  simp [created]

theorem Store.updated_update {kind : Kind} {r r' : kind.Record} {s t : Store} (h : s.update kind r = (.ok r', t)) :
    r' = r ∧ t.written.updated kind = s.written.updated kind ++ [r] := by
  obtain ⟨hsame, -, rfl⟩ := update_eq_ok h
  refine ⟨hsame, ?_⟩
  rw [updated_written, updated_written]
  show (s.log ++ [Change.updated kind r]).filterMap _ = _
  rw [List.filterMap_append]
  simp [updated]

namespace Store

variable {s : Store} {kind : Kind} {id : String} {history : List Move}

/-- An ID that is not scripted is fetched as it is stored. -/
theorem byId_written_of_unscripted (h : s.written.scriptOf kind id = []) :
    ((Client.byId kind id).run s.written).1 = (s.get? kind id).elim (.error (.notFound kind id)) .ok := by
  rw [scriptOf_written, List.map_eq_nil_iff] at h
  exact (congrArg Prod.fst (byId_written kind id s)).trans (congrArg Prod.fst (byId_of_unscripted h))

theorem run_create_written (kind : Kind) (r : kind.Record) (s : Store) :
    (Client.create kind r).run s.written = (.ok (s.placed kind r), (s.create kind r).2.written) := by
  refine (create_written kind r s).trans ?_
  rw [create_eq]

/-- A record without an ID is placed under the one that the history gives next. -/
theorem placed_of_unnumbered (hcount : s.idCount = history.countP Move.isNumbered) {r : kind.Record}
    (h : kind.id r = "") : s.placed kind r = kind.withId r (Move.nextId kind history) := by
  rw [placed, if_pos (by simp [h]), hcount]
  rfl

/-- A call that fails changes nothing. -/
theorem sameRecords_of_failed {c : Call} {e : Fault} {j : JsonStore}
    (h : (Client.answer c).run s.written = (.error e, j)) : s.written.SameRecords j := by
  rw [answer_written] at h
  obtain ⟨herror, rfl⟩ := Prod.mk.inj h
  exact .of_store (unchanged_of_error (Prod.ext herror rfl))

theorem follow_written {α : Type} (read : Json.Tree → Option α) (url : String) (s : Store) :
    ((Client.follow read url).run s.written).2 = s.written := by
  have hlink : (Client.answer (.link url)).run s.written = (s.written.link url, s.written) := rfl
  unfold Client.follow
  rw [Attempt.run_bind, hlink]
  cases s.written.link url with
  | error e => rfl
  | ok body =>
    dsimp only
    split <;> rfl

/-- A store that holds what was last written is, once written, as a map of records is. -/
theorem recalls_written (hget : ∀ kind id r, s.get? kind id = some r ↔ LastWritten kind id history r)
    (hcount : s.idCount = history.countP Move.isNumbered) (hkeyed : s.Keyed) : s.written.Recalls history := by
  have hnone : ∀ kind id, s.get? kind id = none ↔ ¬ ∃ r, LastWritten kind id history r := by
    intro kind id
    simp only [← hget, Option.eq_none_iff_forall_ne_some, not_exists, ne_eq]
  constructor
  case kept =>
    intro kind id v
    rw [get?_records_written, Option.map_eq_some_iff]
    simp only [hget, eq_comm]
  case get =>
    intro kind id r
    rw [get?_written, hget]
  case fetched =>
    intro kind id hs r
    rw [byId_written_of_unscripted hs, ← hget]
    cases s.get? kind id <;> simp
  case missing =>
    intro kind id hs e
    rw [byId_written_of_unscripted hs, ← hnone]
    cases s.get? kind id <;> simp [eq_comm]
  case own => exact fun kind id r hr => hkeyed kind id r ((hget kind id r).2 hr)
  case created =>
    intro kind r
    refine ⟨_, _, run_create_written kind r s, s.createLog_create kind r, s.created_create kind r, fun hr => ?_,
      fun hr => ?_⟩
    · exact if_neg (by simpa using hr)
    · rw [placed_of_unnumbered hcount hr]
      exact ⟨rfl, fun name => kind.member?_withId r (Move.nextId_ne_empty kind history) name⟩
  case updates =>
    intro kind r e
    rw [← hnone, ← update_fails_iff]
    exact (congrArg (·.1 = .error e) (update_written kind r s)).to_iff
  case updated =>
    intro kind r r' j' h
    rw [show (Client.update kind r).run s.written = _ from update_written kind r s] at h
    obtain ⟨hok, rfl⟩ := Prod.mk.inj h
    exact updated_update (Prod.ext hok rfl)
  case deletes =>
    intro kind r e
    rw [← hnone, ← delete_fails_iff]
    exact (congrArg (·.1 = .error e) (delete_written kind r s)).to_iff
  case listed => exact fun kind filters => ⟨_, congrArg Prod.fst (list_written kind filters s)⟩
  case logged => exact s.logged_written
  case failing => exact fun c e j' h => sameRecords_of_failed h
  case following => exact fun α read url => follow_written read url s

end Store

/-- After every history the store keeps, under each kind and ID, the record that was last written there. -/
theorem JsonTraffic.after_recalls (history : List Move) : (after history).store.Recalls history := by
  have hkeyed : (Traffic.after history).store.Keyed :=
    ((Traffic.Sound.of_reachable .empty).run history.reverse).keyed
  rw [after_eq_written]
  exact Store.recalls_written (Traffic.get?_after history) (Traffic.idCount_after history) hkeyed

/-- The numbers of new IDs run on over all kinds. -/
example : ((JsonTraffic.after [.called (.create .app { name := "shop" }),
    .called (.create .catalog { name := "library" })]).store.get? .app "multiclusterapps-2").map App.name =
    some "shop" := by
  cbv

/-! ## Command lines -/

/-- Command lines give the same on a store of written records, and leave what they leave, written. -/
theorem Surroundings.serveAll_written (runs : List Surroundings) (s : Store) :
    serveAll runs s.written = ((serveAll runs s).1, (serveAll runs s).2.written) := by
  obtain ⟨hresults, hend⟩ := agree_serveAll Store.agrees_written runs (rfl : s.written = s.written)
  exact Prod.ext hresults.symm hend

end MultiCluster
