/-
Tables with one entry for each kind of record.
-/
import MultiCluster.Record.Types
namespace MultiCluster

structure ByKind (β : Kind → Type) where
  cluster : β .cluster
  project : β .project
  template : β .template
  templateVersion : β .templateVersion
  app : β .app
  revision : β .revision
  catalog : β .catalog

namespace ByKind

variable {β : Kind → Type}

/-- The table made by a rule. -/
def ofFn (f : (k : Kind) → β k) : ByKind β :=
  ⟨f .cluster, f .project, f .template, f .templateVersion, f .app, f .revision, f .catalog⟩

def get (t : ByKind β) : (k : Kind) → β k
  | .cluster => t.cluster
  | .project => t.project
  | .template => t.template
  | .templateVersion => t.templateVersion
  | .app => t.app
  | .revision => t.revision
  | .catalog => t.catalog

/-- The table with another entry for one kind. -/
def set (t : ByKind β) (k : Kind) (x : β k) : ByKind β :=
  match k, x with
  | .cluster, x => { t with cluster := x }
  | .project, x => { t with project := x }
  | .template, x => { t with template := x }
  | .templateVersion, x => { t with templateVersion := x }
  | .app, x => { t with app := x }
  | .revision, x => { t with revision := x }
  | .catalog, x => { t with catalog := x }

@[simp] theorem get_ofFn (f : (k : Kind) → β k) (k : Kind) : (ofFn f).get k = f k := by cases k <;> rfl

@[simp] theorem get_set_self (t : ByKind β) (k : Kind) (x : β k) : (t.set k x).get k = x := by cases k <;> rfl

theorem get_set_of_ne (t : ByKind β) {k k' : Kind} (x : β k) (h : k' ≠ k) : (t.set k x).get k' = t.get k' := by
  cases k <;> cases k' <;> first | rfl | exact absurd rfl h

theorem ext_get {t u : ByKind β} (h : ∀ k, t.get k = u.get k) : t = u := by
  cases t
  cases u
  simp only [mk.injEq]
  exact ⟨h .cluster, h .project, h .template, h .templateVersion, h .app, h .revision, h .catalog⟩

end ByKind

end MultiCluster
