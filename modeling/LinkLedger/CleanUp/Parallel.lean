import LinkLedger.CleanUp.Locks
import LinkLedger.CleanUp.Pass

/-!
# Passes at the same time

Several passes may be under way over one index.  Each asks for the lock of its owner, loads the
records of the owner once it has the lock, removes those that are stale, and gives the lock back.
Between any two of these steps the others go on with theirs, and a pass may be given up.
-/

namespace LinkLedger

/-- A pass over the records of content, or over those of an owner whose content is gone. -/
inductive Pass where
  | content (c : ContentView)
  | gone (owner : Owner)

namespace Pass

variable {σ : Type}

/-- Whose records a pass is over. -/
def owner : Pass → Owner
  | .content c => c.owner
  | .gone owner => owner

/-- Makes a pass from its beginning to its end. -/
def run (s : Service) (a : Access σ) : Pass → Step Failure σ CleanUpReport
  | .content c => s.cleanUp a c
  | .gone owner => Service.cleanUpGone a owner

/-- The first half of a pass: its records are loaded. -/
def load (a : Access σ) (p : Pass) : Step Failure σ (List LinkRecord) :=
  (a.ownedBy p.owner none).mapFailure .storage

/-- The numbers of the records to be removed among those loaded. -/
def staleIds (s : Service) (records : List LinkRecord) : Pass → List Nat
  | .content c => s.staleIds c records
  | .gone _ => records.filterMap (·.id)

/-- The second half of a pass: of the records loaded, those that are stale are removed. -/
def finish (s : Service) (a : Access σ) (p : Pass) (records : List LinkRecord) :
    Step Failure σ CleanUpReport :=
  Service.removeIds a records.length (p.staleIds s records)

theorem run_eq (s : Service) (a : Access σ) (p : Pass) : p.run s a = p.load a >>= p.finish s a := by
  cases p <;> rfl

end Pass

/-- How far a pass has come: it waits for the lock of its owner; it has the lock; it has loaded the
records; it has removed the stale ones; it has given the lock back and returned; or it has been
given up, maybe behind its removal. -/
inductive Stage where
  | waiting
  | holding
  | loaded (records : List LinkRecord)
  | removed (report : CleanUpReport)
  | returned (report : CleanUpReport)
  | abandoned (report : Option CleanUpReport)

namespace Stage

/-- What a pass has removed, if it has come so far. -/
def report? : Stage → Option CleanUpReport
  | .removed report => some report
  | .returned report => some report
  | .abandoned report => report
  | _ => none

/-- Whether a pass goes on under the lock of its owner. -/
def isInside : Stage → Bool
  | .holding => true
  | .loaded _ => true
  | .removed _ => true
  | _ => false

/-- Whether a pass has returned. -/
def isReturned : Stage → Bool
  | .returned _ => true
  | _ => false

/-- Whether a pass has been given up. -/
def isAbandoned : Stage → Bool
  | .abandoned _ => true
  | _ => false

end Stage

/-- Someone who makes a pass. -/
structure Worker where
  caller : String
  pass : Pass
  stage : Stage

namespace OwnerLocks

/-- Whether someone has a lock. -/
def holds (l : OwnerLocks) (caller : String) : Bool :=
  l.calls.any fun c => c.caller == caller && c.held

/-- Someone goes, with a lock that is given back or without one. -/
def drop (l : OwnerLocks) (caller : String) : OwnerLocks :=
  l.step (if l.holds caller then .release caller else .abandon caller)

end OwnerLocks

/-- All who make passes over an index, with the locks of the owners. -/
structure Crew where
  locks : OwnerLocks
  index : Index
  workers : List Worker

/-- What may happen next: a pass is begun, it takes its next step, or it is given up. -/
inductive Move where
  | start (caller : String) (pass : Pass)
  | advance (caller : String)
  | abandon (caller : String)

namespace Crew

/-- Nobody makes a pass. -/
def idle (x : Index) : Crew := ⟨.empty, x, []⟩

/-- Who goes by a name. -/
def worker? (crew : Crew) (caller : String) : Option Worker :=
  crew.workers.find? fun w => w.caller == caller

/-- Puts someone in place of who goes by the same name. -/
def put (crew : Crew) (w : Worker) : Crew :=
  { crew with workers := crew.workers.map fun v => if v.caller = w.caller then w else v }

/-- Gives up a pass. -/
def abandon (crew : Crew) (w : Worker) : Crew :=
  if w.stage.isReturned || w.stage.isAbandoned then crew
  else
    { crew with locks := crew.locks.drop w.caller }.put
      { w with stage := .abandoned w.stage.report? }

/-- Takes the next step of a pass; a pass whose call fails is given up. -/
def advance (s : Service) (crew : Crew) (w : Worker) : Crew :=
  match w.stage with
  | .waiting => if crew.locks.holds w.caller then crew.put { w with stage := .holding } else crew
  | .holding =>
      match w.pass.load Index.access crew.index with
      | (.ok records, x) => { crew with index := x }.put { w with stage := .loaded records }
      | (.error _, x) => { crew with index := x }.abandon w
  | .loaded records =>
      match w.pass.finish s Index.access records crew.index with
      | (.ok report, x) => { crew with index := x }.put { w with stage := .removed report }
      | (.error _, x) => { crew with index := x }.abandon w
  | .removed report =>
      { crew with locks := crew.locks.drop w.caller }.put { w with stage := .returned report }
  | .returned _ => crew
  | .abandoned _ => crew

/-- The crew behind a move; one that is not possible changes nothing. -/
def after (s : Service) (crew : Crew) : Move → Crew
  | .start caller pass =>
      if (crew.worker? caller).isSome then crew
      else
        { crew with
          locks := crew.locks.step (.lock caller pass.owner)
          workers := crew.workers ++ [⟨caller, pass, .waiting⟩] }
  | .advance caller =>
      match crew.worker? caller with
      | some w => crew.advance s w
      | none => crew
  | .abandon caller =>
      match crew.worker? caller with
      | some w => crew.abandon w
      | none => crew

/-- The crew behind moves over an index, from nobody on. -/
def run (s : Service) (x : Index) (moves : List Move) : Crew := moves.foldl (after s) (idle x)

end Crew
end LinkLedger
