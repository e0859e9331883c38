/-
A store that keeps its records as they are written. A record that comes in is turned into JSON, and one that is asked
for is read from the value that is kept, which fails where the value is no record of the kind. A record that gets its
ID from the store is logged as it came; the ID is put into the written record behind that.
-/
import MultiCluster.Store
namespace MultiCluster

/-- The value with that member, in place of the one of that name. Only an object has members. -/
def Json.setMember (j : Json) (name : String) (value : Json) : Json :=
  match j with
  | .object ms => .object (Dict.insertAt name value ms)
  | j => j

namespace Kind

/-- The record that a value is written for. -/
def ofJson? (kind : Kind) (j : Json) : Option kind.Record := kind.ofTree? j.toTree

def read (kind : Kind) (j : Json) : Except Fault kind.Record :=
  match kind.ofJson? j with
  | some r => .ok r
  | none => .error .decode

end Kind

/-- A page that waits to be asked for, as values. -/
structure JsonPage where
  items : List Json
  next : Option String

structure JsonStore where
  records : ByKind fun _ => Dict Json := .ofFn fun _ => ∅
  /-- What the next fetches of an ID give; the last one is given again and again. -/
  scripts : ByKind fun _ => Dict (List Json) := .ofFn fun _ => ∅
  fetches : ByKind fun _ => Dict Nat := .ofFn fun _ => ∅
  links : Dict Json := ∅
  pageSize : Option Nat := none
  pages : Dict JsonPage := ∅
  pageCount : Nat := 0
  idCount : Nat := 0
  /-- What was created, as it came. -/
  createLog : List (Kind × Json) := []
  updateLog : List (Kind × Json) := []
  deleted : List (Kind × String) := []
  actions : List (Kind × String × String × Json) := []

namespace JsonStore

/-! ## Setting up -/

/-- Keeps a value under an ID. -/
def put (kind : Kind) (id : String) (j : Json) (s : JsonStore) : JsonStore :=
  { s with records := s.records.set kind ((s.records.get kind).insert id j) }

def insert (kind : Kind) (r : kind.Record) (s : JsonStore) : JsonStore := s.put kind (kind.id r) (kind.toJson r)

/-- Keeps values for the next fetches of an ID. -/
def putScript (kind : Kind) (id : String) (responses : List Json) (s : JsonStore) : JsonStore :=
  { s with scripts := s.scripts.set kind ((s.scripts.get kind).insert id responses) }

def script (kind : Kind) (id : String) (responses : List kind.Record) (s : JsonStore) : JsonStore :=
  s.putScript kind id (responses.map kind.toJson)

def insertLink (url : String) (body : Json) (s : JsonStore) : JsonStore :=
  { s with links := s.links.insert url body }

/-! ## Looking in -/

/-- The record under an ID, if what is kept there can be read. -/
def get? (kind : Kind) (id : String) (s : JsonStore) : Option kind.Record :=
  ((s.records.get kind).get? id).bind kind.ofJson?

def fetchesOf (kind : Kind) (id : String) (s : JsonStore) : Nat := ((s.fetches.get kind).get? id).getD 0

/-- The records of a kind in a log; what cannot be read is passed over. -/
def readLog (kind : Kind) (log : List (Kind × Json)) : List kind.Record :=
  (log.filter fun e => e.1 = kind).filterMap fun e => kind.ofJson? e.2

/-- The records of a kind that were created, in order. -/
def created (kind : Kind) (s : JsonStore) : List kind.Record := readLog kind s.createLog

/-- The records of a kind that were sent as updates, in order. -/
def updated (kind : Kind) (s : JsonStore) : List kind.Record := readLog kind s.updateLog

/-! ## Listings -/

/-- Whether a value has the text that each filter asks for. -/
def matchesAll (filters : Dict String) (j : Json) : Bool :=
  filters.toList.all fun f => (j.member? f.1).bind Json.text? == some f.2

/-- Files the pages behind the first one, the last of them first, and gives the URL of the first of them. -/
def file : List (List Json) → JsonStore → Option String × JsonStore
  | [], s => (none, s)
  | p :: r, s =>
    let (next, s) := file r s
    let url := Store.pageUrl (s.pageCount + 1)
    (some url, { s with pageCount := s.pageCount + 1, pages := s.pages.insert url ⟨p, next⟩ })

/-- The first page of values; the others are filed. -/
def paginate (items : List Json) (s : JsonStore) : JsonPage × JsonStore :=
  match s.pageSize with
  | some (n + 1) =>
    match Store.chunks n items with
    | [] => (⟨[], none⟩, s)
    | p :: r => match file r s with | (next, s) => (⟨p, next⟩, s)
  | _ => (⟨items, none⟩, s)

/-- A page whose values can all be read. It is partial if there is one behind it. -/
def readPage (kind : Kind) (p : JsonPage) : Except Fault (Page kind.Record) :=
  match p.items.mapM kind.ofJson? with
  | some records => .ok ⟨records, p.next.map fun url => ⟨some url, true⟩⟩
  | none => .error .decode

def list (kind : Kind) (filters : Dict String) (s : JsonStore) : Except Fault (Page kind.Record) × JsonStore :=
  match s.paginate ((s.records.get kind).values.filter (matchesAll filters)) with
  | (p, s) => (readPage kind p, s)

/-- A page behind the first one, which tells that it is the last. -/
def followed {α : Type} (p : Page α) : Page α := { p with pagination := p.pagination.or (some {}) }

/-- Each page is handed out once, also where it cannot be read. -/
def next (kind : Kind) (page : Page kind.Record) (s : JsonStore) :
    Except Fault (Option (Page kind.Record)) × JsonStore :=
  match page.next? with
  | none => (.ok none, s)
  | some url =>
    match s.pages.get? url with
    | none => (.error (.transport ("unknown page " ++ url)), s)
    | some p => ((readPage kind p).map fun p => some (followed p), { s with pages := s.pages.erase url })

/-! ## Single records -/

def countFetch (kind : Kind) (id : String) (s : JsonStore) : JsonStore :=
  { s with fetches := s.fetches.set kind ((s.fetches.get kind).insert id (s.fetchesOf kind id + 1)) }

def byId (kind : Kind) (id : String) (s : JsonStore) : Except Fault kind.Record × JsonStore :=
  let s := s.countFetch kind id
  match (s.scripts.get kind).get? id with
  | some [j] => (kind.read j, s)
  | some (j :: q) => (kind.read j, s.putScript kind id q)
  | _ =>
    match (s.records.get kind).get? id with
    | some j => (kind.read j, s)
    | none => (.error (.notFound kind id), s)

/-- Keeps a new record; one without an ID gets the next one as its member `id`. -/
def create (kind : Kind) (r : kind.Record) (s : JsonStore) : Except Fault kind.Record × JsonStore :=
  let j := kind.toJson r
  let s := { s with createLog := s.createLog ++ [(kind, j)] }
  if (kind.id r).isEmpty then
    let id := kind.collection ++ "-" ++ toString (s.idCount + 1)
    let j := j.setMember "id" (.text id)
    (kind.read j, { s with idCount := s.idCount + 1 }.put kind id j)
  else (kind.read j, s.put kind (kind.id r) j)

def update (kind : Kind) (r : kind.Record) (s : JsonStore) : Except Fault kind.Record × JsonStore :=
  if (s.records.get kind).contains (kind.id r) then
    let j := kind.toJson r
    (kind.read j, { s.put kind (kind.id r) j with updateLog := s.updateLog ++ [(kind, j)] })
  else (.error (.notFound kind (kind.id r)), s)

def delete (kind : Kind) (r : kind.Record) (s : JsonStore) : Except Fault Unit × JsonStore :=
  if (s.records.get kind).contains (kind.id r) then
    (.ok (), { s with
      records := s.records.set kind ((s.records.get kind).erase (kind.id r))
      deleted := s.deleted ++ [(kind, kind.id r)] })
  else (.error (.notFound kind (kind.id r)), s)

def action (kind : Kind) (r : kind.Record) (name : String) (input : Json) (s : JsonStore) : JsonStore :=
  { s with actions := s.actions ++ [(kind, kind.id r, name, input)] }

def link (url : String) (s : JsonStore) : Except Fault Json.Tree :=
  match s.links.get? url with
  | some body => .ok body.toTree
  | none => .error (.transport ("no such link: " ++ url))

/-! ## The client -/

def answer : (c : Call) → Attempt Fault JsonStore c.Reply
  | .list kind filters => fun s => s.list kind filters
  | .next kind page => fun s => s.next kind page
  | .byId kind id => fun s => s.byId kind id
  | .create kind r => fun s => s.create kind r
  | .update kind r => fun s => s.update kind r
  | .delete kind r => fun s => s.delete kind r
  | .action kind r name input => fun s => (.ok (), s.action kind r name input)
  | .link url => fun s => (s.link url, s)
  | .sleep _ => fun s => (.ok (), s)

/-- A page that is handed out is taken out. -/
theorem size_pages_next {kind : Kind} {page p : Page kind.Record} {s s' : JsonStore}
    (h : s.next kind page = (.ok (some p), s')) : s'.pages.size < s.pages.size := by
  unfold next at h
  split at h
  · cases h
  · rename_i url _
    split at h
    · cases h
    · rename_i q hq
      obtain ⟨-, rfl⟩ := Prod.mk.inj h
      exact Dict.size_erase_lt hq

instance : Client JsonStore where
  answer := answer
  supply s := s.pages.size
  supply_next _ _ _ _ _ h := size_pages_next h

end JsonStore

end MultiCluster
