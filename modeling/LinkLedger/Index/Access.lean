import LinkLedger.Index.Basic
import LinkLedger.Step

/-!
# Access to an index

The services do not hold an index.  They are given the ways to read and to change it, each of which
may fail with a text.
-/

namespace LinkLedger

/-- Access to an index in states of type `σ`.  `bound` is at least the number of its records. -/
structure Access (σ : Type) where
  create : LinkRecord → Step String σ LinkRecord
  update : LinkRecord → Step String σ Unit
  ownedBy : Owner → Option String → Step String σ (List LinkRecord)
  page : Option Nat → Nat → Step String σ (List LinkRecord)
  delete : List Nat → Step String σ Nat
  count : Step String σ Nat
  bound : σ → Nat

/-- Access to the index in a part of a state. -/
def Access.onPart {σ τ : Type} (a : Access σ) (get : τ → σ) (set : σ → τ → τ) : Access τ where
  create r := (a.create r).onPart get set
  update r := (a.update r).onPart get set
  ownedBy owner field := (a.ownedBy owner field).onPart get set
  page after limit := (a.page after limit).onPart get set
  delete ids := (a.delete ids).onPart get set
  count := a.count.onPart get set
  bound t := a.bound (get t)

namespace Index

/-- Changes a record of the index that is the state. -/
def updateStep (r : LinkRecord) : Step String Index Unit := fun x =>
  match x.update r with
  | .ok x' => (.ok (), x')
  | .error fault => (.error fault.message, x)

/-- Access to an index that is the state itself. -/
def access : Access Index where
  create r := .ofUpdate fun x => x.create r
  update := updateStep
  ownedBy owner field := .ofView fun x => x.ownedBy owner field
  page after limit := .ofView fun x => x.page after limit
  delete ids := .ofUpdate fun x => x.delete ids
  count := .ofView count
  bound := count

end Index
end LinkLedger
