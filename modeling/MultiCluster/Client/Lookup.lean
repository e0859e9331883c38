/-
Listings and lookups. `drain` follows a listing through its pages; `lookup` finds the one record that
a name or an ID stands for: the only record of that name, or else the record with that ID.
-/
import MultiCluster.Client.Call
namespace MultiCluster.Client

variable {σ : Type} [Client σ]

/-- The records of a page and of those that follow it, until one is not partial or has no next. -/
def drain (kind : Kind) (page : Page kind.Record) (s : σ) : Except Fault (List kind.Record) × σ :=
  if page.isPartial then
    match _h : answer (.next kind page) s with
    | (.error e, s') => (.error e, s')
    | (.ok none, s') => (.ok page.records, s')
    | (.ok (some p), s') =>
      match drain kind p s' with
      | (.ok rest, t) => (.ok (page.records ++ rest), t)
      | (.error e, t) => (.error e, t)
  else (.ok page.records, s)
termination_by supply s
decreasing_by exact supply_next kind page p s s' _h

def listAll (kind : Kind) (filters : Dict String) : Attempt Fault σ (List kind.Record) := do
  let first ← list kind filters
  drain kind first

/-- The record that a reference names among those that pass the filters. An empty reference names
none; the ID is tried only where no record has the name. -/
def lookup (kind : Kind) (reference : String) (filters : Dict String) : Attempt Fault σ kind.Record :=
  if reference.isEmpty then Attempt.fail (.notFound kind reference)
  else do
    match ← listAll kind (filters.insert "name" reference) with
    | [] =>
      (byId kind reference).mapError fun e => if e.isNotFound then .notFound kind reference else e
    | [r] => return r
    | rs => Attempt.fail (.ambiguous kind reference (rs.map kind.id))

end MultiCluster.Client
