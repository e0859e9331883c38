/-
A store of records in memory that answers calls as a server does. It hands listings out in pages of a
set size, gives IDs to records that come without one, and logs every change. The answers to `byId` can
be scripted, and links lead to what was put behind them.
-/
import MultiCluster.Client.Call
import MultiCluster.Record.ByKind
import MultiCluster.Record.Wire
namespace MultiCluster

/-- A page that waits to be asked for. -/
structure StoredPage where
  kind : Kind
  records : List kind.Record
  next : Option String

/-- A change, as it was asked for. -/
inductive Change where
  | created (kind : Kind) (record : kind.Record)
  | updated (kind : Kind) (record : kind.Record)
  | deleted (kind : Kind) (id : String)
  | acted (kind : Kind) (id name : String) (input : Json)

structure Store where
  records : ByKind fun kind => Dict kind.Record := .ofFn fun _ => ∅
  /-- What the next fetches of an ID give; the last one is given again and again. -/
  scripts : ByKind fun kind => Dict (List kind.Record) := .ofFn fun _ => ∅
  /-- How often an ID was fetched. -/
  fetches : ByKind fun _ => Dict Nat := .ofFn fun _ => ∅
  links : Dict Json := ∅
  pageSize : Option Nat := none
  pages : Dict StoredPage := ∅
  /-- Pages numbered so far. -/
  pageCount : Nat := 0
  /-- IDs given out so far. -/
  idCount : Nat := 0
  log : List Change := []

namespace Store

instance : Inhabited Store := ⟨{}⟩

/-! ## Setting up -/

/-- Stores a record under its ID. -/
def insert (kind : Kind) (r : kind.Record) (s : Store) : Store :=
  { s with records := s.records.set kind ((s.records.get kind).insert (kind.id r) r) }

/-- Lets the next fetches of an ID give `responses`, one each. -/
def script (kind : Kind) (id : String) (responses : List kind.Record) (s : Store) : Store :=
  { s with scripts := s.scripts.set kind ((s.scripts.get kind).insert id responses) }

def insertLink (url : String) (body : Json) (s : Store) : Store := { s with links := s.links.insert url body }

/-! ## Looking in -/

def get? (kind : Kind) (id : String) (s : Store) : Option kind.Record := (s.records.get kind).get? id

theorem get?_insert_self (kind : Kind) (r : kind.Record) (s : Store) :
    (s.insert kind r).get? kind (kind.id r) = some r := by
  simp [get?, insert]

/-- How often the ID was fetched. -/
def fetchesOf (kind : Kind) (id : String) (s : Store) : Nat := ((s.fetches.get kind).get? id).getD 0

/-- A record seen as one of another kind: what reading its written form gives. -/
def recast? (kind kind' : Kind) (r : kind.Record) : Option kind'.Record :=
  if h : kind = kind' then some (h ▸ r) else kind'.ofTree? (kind.toJson r).toTree

/-- The records of a kind that were created, in order. -/
def created (kind : Kind) (s : Store) : List kind.Record :=
  s.log.filterMap fun
    | .created k r => if h : k = kind then some (h ▸ r) else none
    | _ => none

/-- The records of a kind that were sent as updates, in order. -/
def updated (kind : Kind) (s : Store) : List kind.Record :=
  s.log.filterMap fun
    | .updated k r => if h : k = kind then some (h ▸ r) else none
    | _ => none

def deleted (s : Store) : List (Kind × String) :=
  s.log.filterMap fun
    | .deleted kind id => some (kind, id)
    | _ => none

def actions (s : Store) : List (Kind × String × String × Json) :=
  s.log.filterMap fun
    | .acted kind id name input => some (kind, id, name, input)
    | _ => none

/-! ## Listings -/

/-- Pieces of `n + 1` elements; the last one may be shorter. -/
def chunks {α : Type} (n : Nat) : List α → List (List α)
  | [] => []
  | x :: r => (x :: r.take n) :: chunks n (r.drop n)
termination_by l => l.length
decreasing_by simp only [List.length_drop, List.length_cons]; omega

/-- The pieces make up the list. -/
theorem flatten_chunks {α : Type} (n : Nat) : ∀ l : List α, (chunks n l).flatten = l
  | [] => by simp [chunks]
  | x :: r => by rw [chunks, List.flatten_cons, flatten_chunks n (r.drop n), List.cons_append, List.take_append_drop]
termination_by l => l.length
decreasing_by simp only [List.length_drop, List.length_cons]; omega

theorem length_le_of_mem_chunks {α : Type} (n : Nat) : ∀ l : List α, ∀ p ∈ chunks n l, p.length ≤ n + 1
  | [] => by simp [chunks]
  | x :: r => by
    intro p hp
    rw [chunks, List.mem_cons] at hp
    rcases hp with rfl | hp
    · rw [List.length_cons, List.length_take]
      omega
    · exact length_le_of_mem_chunks n (r.drop n) p hp
termination_by l => l.length
decreasing_by simp only [List.length_drop, List.length_cons]; omega

def pageUrl (n : Nat) : String := "fake://page/" ++ toString n

/-- Files the pages behind the first one, the last of them first, and gives the URL of the first of
them. -/
def file (kind : Kind) : List (List kind.Record) → Store → Option String × Store
  | [], s => (none, s)
  | p :: r, s =>
    let (next, s) := file kind r s
    let url := pageUrl (s.pageCount + 1)
    (some url, { s with pageCount := s.pageCount + 1, pages := s.pages.insert url ⟨kind, p, next⟩ })

/-- The records of a kind that pass the filters, in the order of their IDs. -/
def found (kind : Kind) (filters : Dict String) (s : Store) : List kind.Record :=
  (s.records.get kind).values.filter (kind.matchesAll filters)

def list (kind : Kind) (filters : Dict String) (s : Store) : Page kind.Record × Store :=
  match s.pageSize with
  | some (n + 1) =>
    match chunks n (s.found kind filters) with
    | [] => ({}, s)
    | p :: r =>
      let (next, s) := file kind r s
      (⟨p, next.map fun url => ⟨some url, true⟩⟩, s)
  | _ => (⟨s.found kind filters, none⟩, s)

/-- Each page is handed out once; only the last one has no next. -/
def next (kind : Kind) (page : Page kind.Record) (s : Store) : Except Fault (Option (Page kind.Record)) × Store :=
  match page.next? with
  | none => (.ok none, s)
  | some url =>
    match s.pages.get? url with
    | none => (.error (.transport ("unknown page " ++ url)), s)
    | some p =>
      -- the page is gone even if it cannot be read as one of this kind
      let s := { s with pages := s.pages.erase url }
      match p.records.mapM (recast? p.kind kind) with
      | some records => (.ok (some ⟨records, some ⟨p.next, p.next.isSome⟩⟩), s)
      | none => (.error .decode, s)

/-! ## Single records -/

def countFetch (kind : Kind) (id : String) (s : Store) : Store :=
  { s with fetches := s.fetches.set kind ((s.fetches.get kind).insert id (s.fetchesOf kind id + 1)) }

def byId (kind : Kind) (id : String) (s : Store) : Except Fault kind.Record × Store :=
  let s := s.countFetch kind id
  match (s.scripts.get kind).get? id with
  | some [r] => (.ok r, s)
  | some (r :: q) => (.ok r, s.script kind id q)
  | _ =>
    match s.get? kind id with
    | some r => (.ok r, s)
    | none => (.error (.notFound kind id), s)

def record (c : Change) (s : Store) : Store := { s with log := s.log ++ [c] }

/-- Stores a new record; one without an ID gets the next one. -/
def create (kind : Kind) (r : kind.Record) (s : Store) : kind.Record × Store :=
  let s := s.record (.created kind r)
  if (kind.id r).isEmpty then
    -- the numbers run on over all kinds
    let r := kind.withId r (kind.collection ++ "-" ++ toString (s.idCount + 1))
    (r, { s with idCount := s.idCount + 1 }.insert kind r)
  else (r, s.insert kind r)

def update (kind : Kind) (r : kind.Record) (s : Store) : Except Fault kind.Record × Store :=
  match s.get? kind (kind.id r) with
  | none => (.error (.notFound kind (kind.id r)), s)
  | some _ => (.ok r, (s.insert kind r).record (.updated kind r))

def delete (kind : Kind) (r : kind.Record) (s : Store) : Except Fault Unit × Store :=
  match s.get? kind (kind.id r) with
  | none => (.error (.notFound kind (kind.id r)), s)
  | some _ =>
    (.ok (), { s with records := s.records.set kind ((s.records.get kind).erase (kind.id r)) }.record
      (.deleted kind (kind.id r)))

def action (kind : Kind) (r : kind.Record) (name : String) (input : Json) (s : Store) : Store :=
  s.record (.acted kind (kind.id r) name input)

def link (url : String) (s : Store) : Except Fault Json.Tree :=
  match s.links.get? url with
  | some body => .ok body.toTree
  | none => .error (.transport ("no such link: " ++ url))

/-! ## The client -/

def answer : (c : Call) → Attempt Fault Store c.Reply
  | .list kind filters => fun s => match s.list kind filters with | (p, s) => (.ok p, s)
  | .next kind page => fun s => s.next kind page
  | .byId kind id => fun s => s.byId kind id
  | .create kind r => fun s => match s.create kind r with | (r, s) => (.ok r, s)
  | .update kind r => fun s => s.update kind r
  | .delete kind r => fun s => s.delete kind r
  | .action kind r name input => fun s => (.ok (), s.action kind r name input)
  | .link url => fun s => (s.link url, s)
  | .sleep _ => fun s => (.ok (), s)

/-- A page that is handed out is taken out. -/
theorem size_pages_next {kind : Kind} {page p : Page kind.Record} {s s' : Store}
    (h : s.next kind page = (.ok (some p), s')) : s'.pages.size < s.pages.size := by
  unfold next at h
  split at h
  · cases h
  · rename_i url _
    split at h
    · cases h
    · rename_i q hq
      dsimp only at h
      split at h
      · cases h
        exact Dict.size_erase_lt hq
      · cases h

instance : Client Store where
  answer := answer
  supply s := s.pages.size
  supply_next _ _ _ _ _ h := size_pages_next h

end Store

end MultiCluster
