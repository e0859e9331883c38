/-
Answers in their two forms. A flat map has one entry for each answer, under a key that spells out its
scope; the records of an app have one record for each scope, under the scope's ID. A scope may be
spelled by names or by its ID. Of two entries that mean the same answer the one spelled by names
stands: names come from the user, IDs from the app as it was.
-/
import MultiCluster.Session
namespace MultiCluster

/-- Answers by scoped key. -/
abbrev FlatAnswers := Dict String

/-- Answers by scope ID and key; the empty ID is that of the global scope. -/
abbrev Buckets := Dict (Dict String)

namespace Buckets

def bucket (b : Buckets) (id : String) : Dict String := (b.get? id).getD ∅

/-- Enters a value under a scope spelled `scope`. A value spelled by the ID replaces none. -/
def setValue (b : Buckets) (scope id key value : String) : Buckets :=
  if (b.bucket id).contains key ∧ scope = id then b
  else b.insert id ((b.bucket id).insert key value)

/-- The record of one scope; only the IDs of projects have a colon. -/
def toAnswer (id : String) (values : Dict String) : Answer :=
  if ':' ∈ id.toList then { projectId := id, values } else { clusterId := id, values }

def toAnswers (b : Buckets) : List Answer := b.toList.map fun e => toAnswer e.1 e.2

end Buckets

namespace FlatAnswers

variable {σ : Type} [Client σ]

/-- The ID of a key's scope. -/
def resolveScope : ScopedKey → Attempt Fault (Session σ) String
  | .global _ => return ""
  | .cluster c _ => Session.resolveCluster c
  | .project c p _ => Session.resolveProject (joinScope c p)

/-- Enters one answer. A global one replaces what is there. -/
def enter (b : Buckets) (k : ScopedKey) (id value : String) : Buckets :=
  match k with
  | .global key => b.insert "" ((b.bucket "").insert key value)
  | k => b.setValue k.scope id k.key value

def fill : List (String × String) → Buckets → Attempt Fault (Session σ) Buckets
  | [], b => return b
  | (k, value) :: r, b => do
    let id ← resolveScope (ScopedKey.parse k)
    fill r (enter b (ScopedKey.parse k) id value)

/-- The records of a flat map, in the order of their scope IDs. -/
def toAnswers (flat : FlatAnswers) : Attempt Fault (Session σ) (List Answer) := do
  return (← fill flat.toList ∅).toAnswers

/-- The scope ID of a record. -/
def scopeOf (a : Answer) : String := if a.projectId.isEmpty then a.clusterId else a.projectId

/-- The entries of one record. -/
def entriesOf (a : Answer) : List (String × String) :=
  a.values.toList.map fun e => (if (scopeOf a).isEmpty then e.1 else joinScope (scopeOf a) e.1, e.2)

/-- The flat map of the records, with scopes spelled by their IDs; of two values for one key the later
one stands. -/
def ofAnswers (as : List Answer) : FlatAnswers := Dict.ofList (as.flatMap entriesOf)

end FlatAnswers

end MultiCluster
