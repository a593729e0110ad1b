import LinkLedger.Record.Basic

/-!
# The index of links

The index numbers the records it takes in, from 1 on and never twice, and lists them by number.
-/

namespace LinkLedger

/-- Records by their numbers, in ascending order, and the last number given. -/
structure Index where
  entries : List (Nat × LinkRecord)
  last : Nat
  deriving DecidableEq, Repr

/-- Why a record cannot be changed. -/
inductive UpdateFault where
  | neverCreated
  | unknown (id : Nat)
  deriving DecidableEq, Repr

/-- The wording of a fault. -/
def UpdateFault.message : UpdateFault → String
  | .neverCreated => "cannot update a link record that was never created"
  | .unknown id => s!"link record {id} does not exist"

namespace Index

/-- The index without records. -/
def empty : Index := ⟨[], 0⟩

instance : Inhabited Index := ⟨empty⟩

/-- All records in the order of their numbers. -/
def records (x : Index) : List LinkRecord := x.entries.map (·.2)

/-- The number of records. -/
def count (x : Index) : Nat := x.entries.length

/-- The record of a number. -/
def get? (x : Index) (id : Nat) : Option LinkRecord := x.entries.lookup id

/-- Takes in a record under the next number, with nothing between drawing the number and putting the
record under it. -/
def create (x : Index) (r : LinkRecord) : LinkRecord × Index :=
  let id := x.last + 1
  let stored := { r with id := some id }
  (stored, ⟨x.entries ++ [(id, stored)], id⟩)

/-- Draws the next number; no record stands under it yet. -/
def draw (x : Index) : Nat × Index := (x.last + 1, { x with last := x.last + 1 })

/-- Takes in a record under a number that has been drawn, in place of one that stands there. -/
def insert (x : Index) (id : Nat) (r : LinkRecord) : LinkRecord × Index :=
  let stored := { r with id := some id }
  let front := x.entries.filter fun e => e.1 < id
  let back := x.entries.filter fun e => id < e.1
  (stored, { x with entries := front ++ (id, stored) :: back })

/-- Puts a record in place of the one with its number. -/
def update (x : Index) (r : LinkRecord) : Except UpdateFault Index :=
  match r.id with
  | none => .error .neverCreated
  | some id =>
      if (x.get? id).isSome then
        .ok { x with entries := x.entries.map fun e => if e.1 = id then (id, r) else e }
      else .error (.unknown id)

/-- The records of an owner, in one field only if a field is given. -/
def ownedBy (x : Index) (owner : Owner) (field : Option String) : List LinkRecord :=
  x.records.filter fun r => r.owner == owner && field.all fun f => r.field == f

/-- At most `limit` records whose numbers are above `after`, in their order. -/
def page (x : Index) (after : Option Nat) (limit : Nat) : List LinkRecord :=
  ((x.entries.filter fun e => after.all fun id => id < e.1).take limit).map (·.2)

/-- Removes the record of a number. -/
def erase (x : Index) (id : Nat) : Index :=
  { x with entries := x.entries.filter fun e => e.1 != id }

/-- Removes the records of some numbers; gives how many there were. -/
def delete (x : Index) (ids : List Nat) : Nat × Index :=
  let rest := ids.foldl erase x
  (x.count - rest.count, rest)

end Index
end LinkLedger
