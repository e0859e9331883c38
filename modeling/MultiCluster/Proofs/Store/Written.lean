/-
The store of written records and the store of records. Writing every record of a store, wherever it is kept, gives a
store of values (`Store.written`). Whatever is done to the one is done to the other: each operation on the values
gives what the operation on the records gives, and leaves the values that these are written as (`answer_written`).
-/
import MultiCluster.JsonStore
import MultiCluster.Proofs.Record.RoundTrip
import MultiCluster.Proofs.Store.Writing
namespace MultiCluster

/-! ## Tables and pieces -/

namespace ByKind

variable {β γ : Kind → Type}

def map (f : (k : Kind) → β k → γ k) (t : ByKind β) : ByKind γ := .ofFn fun k => f k (t.get k)

@[simp] theorem get_map (f : (k : Kind) → β k → γ k) (t : ByKind β) (k : Kind) : (t.map f).get k = f k (t.get k) :=
  get_ofFn _ k

theorem map_set (f : (k : Kind) → β k → γ k) (t : ByKind β) (k : Kind) (x : β k) :
    (t.set k x).map f = (t.map f).set k (f k x) := by
  refine ext_get fun k' => ?_
  by_cases h : k' = k
  · subst h
    simp
  · rw [get_map, get_set_of_ne _ _ h, get_set_of_ne _ _ h, get_map]

theorem map_ofFn (f : (k : Kind) → β k → γ k) (g : (k : Kind) → β k) : (ofFn g).map f = ofFn fun k => f k (g k) := by
  refine ext_get fun k => ?_
  rw [get_map, get_ofFn, get_ofFn]

end ByKind

namespace Dict

variable {α β : Type}

theorem map_erase (f : α → β) (d : Dict α) (k : String) : (d.erase k).map f = (d.map f).erase k := by
  refine ext_get? fun k' => ?_
  rw [get?_map, get?_erase, get?_erase, get?_map]
  split <;> rfl

theorem values_map (f : α → β) (d : Dict α) : (d.map f).values = d.values.map f := by
  simp [values, map, Function.comp_def]

end Dict

theorem Store.chunks_map {α β : Type} (f : α → β) (n : Nat) (l : List α) :
    chunks n (l.map f) = (chunks n l).map (List.map f) := by
  fun_induction chunks n l with
  | case1 => simp [chunks]
  | case2 x l ih => rw [List.map_cons, chunks, ← List.map_take, ← List.map_drop, ih]; rfl

/-! ## Written records -/

namespace Kind

theorem ofJson?_toJson (kind : Kind) (r : kind.Record) : kind.ofJson? (kind.toJson r) = some r := kind.ofTree?_toJson r

theorem read_toJson (kind : Kind) (r : kind.Record) : kind.read (kind.toJson r) = .ok r := by
  rw [read, ofJson?_toJson]

/-- Read as a record of another kind, a written record is what it is recast to. -/
theorem ofJson?_toJson_of_kind (kind kind' : Kind) (r : kind.Record) :
    kind'.ofJson? (kind.toJson r) = Store.recast? kind kind' r := by
  unfold Store.recast?
  split
  · rename_i h
    subst h
    exact kind.ofJson?_toJson r
  · rfl

theorem exists_toJson (kind : Kind) (r : kind.Record) : ∃ d : Dict Json, kind.toJson r = .object d.toList := by
  cases kind <;> exact ⟨_, rfl⟩

/-- A written record that gets an ID is the record with that ID, written. -/
theorem setMember_id_toJson (kind : Kind) (r : kind.Record) {id : String} (h : id ≠ "") :
    (kind.toJson r).setMember "id" (.text id) = kind.toJson (kind.withId r id) := by
  obtain ⟨d, hd⟩ := kind.exists_toJson r
  obtain ⟨d', hd'⟩ := kind.exists_toJson (kind.withId r id)
  have hmembers : d.insert "id" (.text id) = d' := by
    refine Dict.ext_get? fun name => ?_
    have hmember := kind.member?_withId r h name
    rw [hd, hd'] at hmember
    rw [Dict.get?_insert]
    simp only [eq_comm (a := name)] at hmember
    exact hmember.symm
  rw [hd, hd', ← hmembers]
  rfl

end Kind

/-! ## Written stores -/

/-- The page with its records written. -/
def StoredPage.written (p : StoredPage) : JsonPage := ⟨p.records.map p.kind.toJson, p.next⟩

namespace Change

def created? : Change → Option (Kind × Json)
  | .created kind r => some (kind, kind.toJson r)
  | _ => none

def updated? : Change → Option (Kind × Json)
  | .updated kind r => some (kind, kind.toJson r)
  | _ => none

end Change

namespace Store

/-- The store with all its records written. -/
def written (s : Store) : JsonStore where
  records := s.records.map fun kind => Dict.map kind.toJson
  scripts := s.scripts.map fun kind => Dict.map (List.map kind.toJson)
  fetches := s.fetches
  links := s.links
  pageSize := s.pageSize
  pages := s.pages.map StoredPage.written
  pageCount := s.pageCount
  idCount := s.idCount
  createLog := s.log.filterMap Change.created?
  updateLog := s.log.filterMap Change.updated?
  deleted := s.deleted
  actions := s.actions

variable {kind : Kind} {id : String} {r : kind.Record} {s : Store}

theorem written_empty : ({} : Store).written = {} := by
  simp only [written, ByKind.map_ofFn]
  rfl

theorem written_insert (kind : Kind) (r : kind.Record) (s : Store) :
    (s.insert kind r).written = s.written.insert kind r := by
  simp only [written, insert, JsonStore.insert, JsonStore.put, ByKind.map_set, Dict.map_insert, ByKind.get_map]
  rfl

theorem written_script (kind : Kind) (id : String) (responses : List kind.Record) (s : Store) :
    (s.script kind id responses).written = s.written.script kind id responses := by
  simp only [written, script, JsonStore.script, JsonStore.putScript, ByKind.map_set, Dict.map_insert, ByKind.get_map]
  rfl

/-! ## Looking in -/

theorem get?_records_written (kind : Kind) (id : String) (s : Store) :
    (s.written.records.get kind).get? id = (s.get? kind id).map kind.toJson := by
  rw [written, ByKind.get_map, Dict.get?_map]
  rfl

theorem get?_written (kind : Kind) (id : String) (s : Store) : s.written.get? kind id = s.get? kind id := by
  rw [JsonStore.get?, get?_records_written]
  cases s.get? kind id with
  | none => rfl
  | some r => exact kind.ofJson?_toJson r

/-- What is read from a log is the records of the kind that were logged. -/
theorem readLog_filterMap {logged : Change → Option (Kind × Json)} {shown : Change → Option kind.Record}
    (h : ∀ c, (logged c).bind (fun e => if e.1 = kind then kind.ofJson? e.2 else none) = shown c) (log : List Change) :
    JsonStore.readLog kind (log.filterMap logged) = log.filterMap shown := by
  rw [JsonStore.readLog, List.filterMap_filter, List.filterMap_filterMap]
  refine congrArg (log.filterMap ·) (funext fun c => ?_)
  rw [← h c]
  simp

theorem ofJson?_toJson_of_logged (kind kind' : Kind) (r : kind'.Record) :
    (if kind' = kind then kind.ofJson? (kind'.toJson r) else none) =
      if h : kind' = kind then some (h ▸ r) else none := by
  split
  · rename_i h
    subst h
    exact kind'.ofJson?_toJson r
  · rfl

theorem created_written (kind : Kind) (s : Store) : s.written.created kind = s.created kind := by
  refine readLog_filterMap (fun c => ?_) s.log
  cases c with
  | created kind' r => exact ofJson?_toJson_of_logged kind kind' r
  | updated | deleted | acted => rfl

theorem updated_written (kind : Kind) (s : Store) : s.written.updated kind = s.updated kind := by
  refine readLog_filterMap (fun c => ?_) s.log
  cases c with
  | updated kind' r => exact ofJson?_toJson_of_logged kind kind' r
  | created | deleted | acted => rfl

/-! ## Listings -/

theorem values_written (kind : Kind) (filters : Dict String) (s : Store) :
    (s.written.records.get kind).values.filter (JsonStore.matchesAll filters) =
    (s.found kind filters).map kind.toJson := by
  rw [written, ByKind.get_map, Dict.values_map, List.filter_map]
  rfl

theorem file_written (kind : Kind) (r : List (List kind.Record)) (s : Store) :
    JsonStore.file (r.map (List.map kind.toJson)) s.written = ((s.file kind r).1, (s.file kind r).2.written) := by
  induction r with
  | nil => rfl
  | cons p r ih =>
    rw [List.map_cons, JsonStore.file, ih, file]
    simp only [written, Dict.map_insert]
    rfl

theorem readPage_written (kind : Kind) (rs : List kind.Record) (next : Option String) :
    JsonStore.readPage kind ⟨rs.map kind.toJson, next⟩ = .ok ⟨rs, next.map fun url => ⟨some url, true⟩⟩ := by
  rw [JsonStore.readPage, Wire.mapM_map_eq_some kind.ofJson?_toJson]

theorem list_written (kind : Kind) (filters : Dict String) (s : Store) :
    s.written.list kind filters = (.ok (s.list kind filters).1, (s.list kind filters).2.written) := by
  have hsize : s.written.pageSize = s.pageSize := rfl
  unfold JsonStore.list JsonStore.paginate list
  rw [values_written, hsize]
  rcases s.pageSize with _ | _ | n
  · simp only [readPage_written]
    rfl
  · simp only [readPage_written]
    rfl
  · dsimp only
    rw [chunks_map]
    cases chunks n (s.found kind filters) with
    | nil => rfl
    | cons p r =>
      simp only [List.map_cons, file_written, readPage_written]

theorem next_written (kind : Kind) (page : Page kind.Record) (s : Store) :
    s.written.next kind page = ((s.next kind page).1, (s.next kind page).2.written) := by
  have hpages (url : String) : s.written.pages.get? url = (s.pages.get? url).map StoredPage.written := Dict.get?_map ..
  unfold JsonStore.next next
  cases page.next? with
  | none => rfl
  | some url =>
    dsimp only
    rw [hpages]
    cases s.pages.get? url with
    | none => rfl
    | some p =>
      have hread : p.written.items.mapM kind.ofJson? = p.records.mapM (recast? p.kind kind) := by
        rw [StoredPage.written, List.mapM_map]
        exact congrArg (p.records.mapM ·) (funext (p.kind.ofJson?_toJson_of_kind kind))
      have herase : { s.written with pages := s.written.pages.erase url } =
          ({ s with pages := s.pages.erase url } : Store).written := by
        simp only [written, Dict.map_erase]
        rfl
      dsimp only [Option.map_some]
      rw [JsonStore.readPage, hread, herase]
      cases p.records.mapM (recast? p.kind kind) with
      | none => rfl
      | some records =>
        have hnext : p.written.next = p.next := rfl
        rw [hnext]
        cases p.next <;> rfl

/-! ## Single records -/

theorem byId_written (kind : Kind) (id : String) (s : Store) :
    s.written.byId kind id = ((s.byId kind id).1, (s.byId kind id).2.written) := by
  have hscript : ((s.written.countFetch kind id).scripts.get kind).get? id =
      (((s.countFetch kind id).scripts.get kind).get? id).map (List.map kind.toJson) := by
    show ((s.written.scripts.get kind).get? id) = _
    rw [written, ByKind.get_map, Dict.get?_map]
    rfl
  have hrecord : ((s.written.countFetch kind id).records.get kind).get? id =
      ((s.countFetch kind id).get? kind id).map kind.toJson := get?_records_written kind id s
  have hcount : s.written.countFetch kind id = (s.countFetch kind id).written := rfl
  unfold JsonStore.byId byId
  dsimp only
  rw [hscript, hrecord, hcount]
  rcases ((s.countFetch kind id).scripts.get kind).get? id with _ | _ | ⟨r, _ | ⟨r', q⟩⟩
  · cases (s.countFetch kind id).get? kind id with
    | none => rfl
    | some r => exact congrArg (·, _) (kind.read_toJson r)
  · cases (s.countFetch kind id).get? kind id with
    | none => rfl
    | some r => exact congrArg (·, _) (kind.read_toJson r)
  · exact congrArg (·, _) (kind.read_toJson r)
  · exact Prod.ext (kind.read_toJson r) (written_script kind id (r' :: q) (s.countFetch kind id)).symm

/-- A change goes to the log of its sort. -/
theorem written_record (c : Change) (s : Store) : (s.record c).written =
    match c with
    | .created kind r => { s.written with createLog := s.written.createLog ++ [(kind, kind.toJson r)] }
    | .updated kind r => { s.written with updateLog := s.written.updateLog ++ [(kind, kind.toJson r)] }
    | .deleted kind id => { s.written with deleted := s.written.deleted ++ [(kind, id)] }
    | .acted kind id name input => { s.written with actions := s.written.actions ++ [(kind, id, name, input)] } := by
  cases c <;> simp [written, record, Change.created?, Change.updated?, deleted, actions]

theorem contains_written (kind : Kind) (id : String) (s : Store) :
    (s.written.records.get kind).contains id = (s.get? kind id).isSome := by
  rw [Dict.contains, get?_records_written, Option.isSome_map]

/-- A record is logged as it came, and with its ID it is kept. -/
theorem create_written (kind : Kind) (r : kind.Record) (s : Store) :
    s.written.create kind r = (.ok (s.create kind r).1, (s.create kind r).2.written) := by
  have hlog := written_record (.created kind r) s
  unfold JsonStore.create create
  dsimp only at hlog ⊢
  split
  · have hid : kind.collection ++ "-" ++ toString (s.idCount + 1) ≠ "" := by simp
    have hput := written_insert kind (kind.withId r (kind.collection ++ "-" ++ toString (s.idCount + 1)))
      { s.record (.created kind r) with idCount := s.idCount + 1 }
    rw [JsonStore.insert, kind.id_withId, ← kind.setMember_id_toJson r hid] at hput
    refine Prod.ext ?_ (Eq.trans ?_ hput.symm)
    · exact (congrArg kind.read (kind.setMember_id_toJson r hid)).trans (kind.read_toJson _)
    · exact congrArg (fun t => JsonStore.put kind _ _ { t with idCount := s.idCount + 1 }) hlog.symm
  · refine Prod.ext (kind.read_toJson r) ?_
    dsimp only
    rw [written_insert, hlog]
    rfl

theorem update_written (kind : Kind) (r : kind.Record) (s : Store) :
    s.written.update kind r = ((s.update kind r).1, (s.update kind r).2.written) := by
  unfold JsonStore.update update
  rw [contains_written]
  cases s.get? kind (kind.id r) with
  | none => rfl
  | some old =>
    refine Prod.ext (kind.read_toJson r) ?_
    dsimp only
    rw [written_record, written_insert]
    rfl

theorem delete_written (kind : Kind) (r : kind.Record) (s : Store) :
    s.written.delete kind r = ((s.delete kind r).1, (s.delete kind r).2.written) := by
  unfold JsonStore.delete delete
  rw [contains_written]
  cases s.get? kind (kind.id r) with
  | none => rfl
  | some old =>
    refine Prod.ext rfl ?_
    dsimp only
    rw [written_record]
    simp only [written, ByKind.map_set, Dict.map_erase, ByKind.get_map]
    rfl

theorem action_written (kind : Kind) (r : kind.Record) (name : String) (input : Json) (s : Store) :
    s.written.action kind r name input = (s.action kind r name input).written := by
  rw [action, written_record]
  rfl

/-! ## All calls -/

/-- A written store answers as the store does, and is left as this is, written. -/
theorem answer_written (c : Call) (s : Store) :
    (Client.answer c).run s.written = (((Client.answer c).run s).1, ((Client.answer c).run s).2.written) := by
  cases c with
  | list kind filters => exact list_written kind filters s
  | next kind page => exact next_written kind page s
  | byId kind id => exact byId_written kind id s
  | create kind r => exact create_written kind r s
  | update kind r => exact update_written kind r s
  | delete kind r => exact delete_written kind r s
  | action kind r name input => exact congrArg (Except.ok (), ·) (action_written kind r name input s)
  | link | sleep => rfl

end Store

end MultiCluster
