/-
Scoped keys. An answer's key may carry the cluster, or the cluster and the project, it belongs to, as
`cluster:key` or `cluster:project:key`. Nothing is escaped: the first colons separate, and all that
follow belong to the key. No reading loses anything (`render_parse`).
-/
import MultiCluster.Text.Cut
namespace MultiCluster

/-- Joins a scope and a key. -/
def joinScope (scope key : String) : String := scope ++ ":" ++ key

/-- Splits a reference at its first colon; without one it has an empty scope. -/
def splitScope (reference : String) : String × String :=
  match Text.cut? ':' reference.toList with
  | some (a, b) => (String.ofList a, String.ofList b)
  | none => ("", reference)

/-- A key with the scope it names. -/
inductive ScopedKey where
  | global (key : String)
  | cluster (cluster key : String)
  | project (cluster project key : String)
  deriving DecidableEq, Repr

namespace ScopedKey

/-- Reads a key: two colons make it a project's, one a cluster's. -/
def parse (s : String) : ScopedKey :=
  match Text.cut? ':' s.toList with
  | none => .global s
  | some (a, rest) =>
    match Text.cut? ':' rest with
    | none => .cluster (String.ofList a) (String.ofList rest)
    | some (b, k) => .project (String.ofList a) (String.ofList b) (String.ofList k)

/-- The key without its scope. -/
def key : ScopedKey → String
  | .global k => k
  | .cluster _ k => k
  | .project _ _ k => k

/-- The scope as written; empty for a global key. -/
def scope : ScopedKey → String
  | .global _ => ""
  | .cluster c _ => c
  | .project c p _ => joinScope c p

/-- The text of a scoped key. -/
def render : ScopedKey → String
  | .global k => k
  | .cluster c k => joinScope c k
  | .project c p k => joinScope (joinScope c p) k

theorem joinScope_ofList {s a b : List Char} (h : Text.cut? ':' s = some (a, b)) :
    joinScope (String.ofList a) (String.ofList b) = String.ofList s := by
  obtain ⟨rfl, _⟩ := Text.cut?_eq_some_iff.1 h
  apply String.toList_injective
  simp [joinScope]

@[simp] theorem render_parse (s : String) : (parse s).render = s := by
  unfold parse
  split
  · rfl
  · next a rest h =>
    split
    · exact (joinScope_ofList h).trans String.ofList_toList
    · next b k h' =>
      have hk : joinScope (joinScope (String.ofList a) (String.ofList b)) (String.ofList k) =
          joinScope (String.ofList a) (joinScope (String.ofList b) (String.ofList k)) := by
        simp [joinScope, String.append_assoc]
      exact hk.trans (by rw [joinScope_ofList h', joinScope_ofList h, String.ofList_toList])

end ScopedKey

end MultiCluster
