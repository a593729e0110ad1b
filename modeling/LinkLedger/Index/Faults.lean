import LinkLedger.Content.Basic
import LinkLedger.Index.Access

/-!
# Access that can be made to fail

Faults are armed beforehand.  A fault lets some calls of its kind pass and then makes one fail,
which changes nothing but the list of faults.
-/

namespace LinkLedger

/-- The kinds of calls that can be made to fail. -/
inductive Call where
  | create
  | update
  | ownedBy
  | page
  | delete
  | count
  | load
  deriving DecidableEq, Repr

/-- A fault of a kind of calls: the text to fail with, and how many calls it lets pass first.  A
fault of paging without a text makes the page an empty one. -/
structure ArmedFault where
  call : Call
  text : Option String
  skip : Nat
  deriving DecidableEq, Repr

/-- The outcome of asking whether a call fails: the fault that fires, if one does, and those that
stay armed. -/
def takeFault (call : Call) : List ArmedFault → Option ArmedFault × List ArmedFault
  | [] => (none, [])
  | f :: fs =>
      if f.call = call then
        if f.skip = 0 then (some f, fs) else (none, { f with skip := f.skip - 1 } :: fs)
      else
        let (fired, rest) := takeFault call fs
        (fired, f :: rest)

/-- An index and a store of content behind faults.  With `hidden`, records are listed without their
numbers. -/
structure Fallible where
  index : Index
  contents : List Content
  faults : List ArmedFault
  hidden : Bool

namespace Fallible

/-- Nothing stored, nothing armed. -/
def empty : Fallible := ⟨.empty, [], [], false⟩

/-- Makes a call that fails if a fault fires. -/
def guarded {α : Type} (call : Call) (step : Step String Fallible α) : Step String Fallible α :=
  fun s =>
    match takeFault call s.faults with
    | (some fault, rest) => (.error (fault.text.getD ""), { s with faults := rest })
    | (none, rest) => step { s with faults := rest }

/-- A step on the index alone. -/
def onIndex {α : Type} (step : Step String Index α) : Step String Fallible α :=
  step.onPart (·.index) fun x s => { s with index := x }

/-- Records as they are listed. -/
def listed (s : Fallible) (records : List LinkRecord) : List LinkRecord :=
  if s.hidden then records.map fun r => { r with id := none } else records

/-- A page, which a fault without a text makes empty. -/
def pageStep (after : Option Nat) (limit : Nat) : Step String Fallible (List LinkRecord) := fun s =>
  match takeFault .page s.faults with
  | (some ⟨_, some text, _⟩, rest) => (.error text, { s with faults := rest })
  | (some ⟨_, none, _⟩, rest) => (.ok [], { s with faults := rest })
  | (none, rest) => (.ok (s.listed (s.index.page after limit)), { s with faults := rest })

/-- Access to the index behind the faults. -/
def access : Access Fallible where
  create r := guarded .create (onIndex (Index.access.create r))
  update r := guarded .update (onIndex (Index.access.update r))
  ownedBy owner field :=
    guarded .ownedBy (.ofView fun s => s.listed (s.index.ownedBy owner field))
  page := pageStep
  delete ids := guarded .delete (onIndex (Index.access.delete ids))
  count := guarded .count (onIndex Index.access.count)
  bound s := s.index.count

/-- Draws the number for a record that is to be taken in; a fault of creations fires here. -/
def draw : Step String Fallible Nat := guarded .create (onIndex (.ofUpdate Index.draw))

/-- The stored content of an owner. -/
def content? (s : Fallible) (owner : Owner) : Option Content :=
  s.contents.find? fun c => c.owner == owner

/-- Stores content in place of what its owner had. -/
def putContent (s : Fallible) (c : Content) : Fallible :=
  { s with contents := c :: s.contents.filter fun d => d.owner != c.owner }

/-- Forgets the content of an owner; tells whether there was any. -/
def removeContent (s : Fallible) (owner : Owner) : Bool × Fallible :=
  ((s.content? owner).isSome,
    { s with contents := s.contents.filter fun d => d.owner != owner })

/-- Loads the content of an owner. -/
def load (owner : Owner) : Step String Fallible (Option ContentView) :=
  guarded .load (.ofView fun s => (s.content? owner).map Content.view)

end Fallible
end LinkLedger
