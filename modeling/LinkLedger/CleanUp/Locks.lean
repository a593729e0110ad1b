import LinkLedger.Content.Basic

/-!
# Locks of owners

Two passes over the records of one owner must not mix.  Every owner with a pass under way has a
lock, which its calls get in the order in which they asked.  Locks that no call needs are forgotten.
-/

namespace LinkLedger

/-- A call for the lock of an owner: who makes it, the lock it refers to, and whether it has got
it. -/
structure LockCall where
  caller : String
  owner : Owner
  lock : Nat
  held : Bool
  deriving DecidableEq, Repr

/-- The locks by their owners, the calls in the order of their arrival, and the number of the next
lock. -/
structure OwnerLocks where
  locks : List (Owner × Nat)
  calls : List LockCall
  next : Nat
  deriving DecidableEq, Repr

namespace OwnerLocks

/-- No locks. -/
def empty : OwnerLocks := ⟨[], [], 0⟩

instance : Inhabited OwnerLocks := ⟨empty⟩

/-- The number of references to a lock: its entry, and the calls that hold it or wait for it. -/
def references (l : OwnerLocks) (lock : Nat) : Nat :=
  l.locks.countP (fun e => e.2 == lock) + l.calls.countP fun c => c.lock == lock

/-- Forgets the locks that only their entries refer to. -/
def prune (l : OwnerLocks) : OwnerLocks :=
  { l with locks := l.locks.filter fun e => 1 < l.references e.2 }

/-- Asks for the lock of an owner. -/
def request (l : OwnerLocks) (caller : String) (owner : Owner) : OwnerLocks :=
  let l := l.prune
  match l.locks.lookup owner with
  | some lock => { l with calls := l.calls ++ [⟨caller, owner, lock, false⟩] }
  | none =>
      ⟨l.locks ++ [(owner, l.next)], l.calls ++ [⟨caller, owner, l.next, false⟩], l.next + 1⟩

/-- Gives back the locks that someone holds. -/
def release (l : OwnerLocks) (caller : String) : OwnerLocks :=
  { l with calls := l.calls.filter fun c => !(c.caller == caller && c.held) }

/-- Gives up the calls of someone that still wait. -/
def abandon (l : OwnerLocks) (caller : String) : OwnerLocks :=
  { l with calls := l.calls.filter fun c => !(c.caller == caller && !c.held) }

/-- Lets the waiting calls have the locks that nobody holds, in the order of their arrival; `before`
are the calls in front of them, last one first. -/
def grantFrom (before : List LockCall) : List LockCall → List LockCall
  | [] => before.reverse
  | c :: rest =>
      let free := !(before.any (fun d => d.lock == c.lock && d.held) ||
        rest.any fun d => d.lock == c.lock && d.held)
      grantFrom ({ c with held := c.held || free } :: before) rest

/-- Lets the waiting calls have the locks that nobody holds. -/
def grant (l : OwnerLocks) : OwnerLocks := { l with calls := grantFrom [] l.calls }

/-- Who still waits, in the order of arrival. -/
def waiting (l : OwnerLocks) : List String :=
  (l.calls.filter fun c => !c.held).map (·.caller)

/-- Who gets a lock when the waiting calls are served, in the order of arrival. -/
def acquiring (l : OwnerLocks) : List String :=
  ((l.calls.zip l.grant.calls).filter fun (c, d) => !c.held && d.held).map (·.1.caller)

/-- The number of owners whose locks are held or waited for. -/
def active (l : OwnerLocks) : Nat :=
  l.locks.countP fun e => 1 < l.references e.2

/-- What can happen to the locks. -/
inductive Action where
  | lock (caller : String) (owner : Owner)
  | release (caller : String)
  | abandon (caller : String)
  deriving DecidableEq, Repr

/-- The locks behind an action, before waiting calls are served. -/
def apply (l : OwnerLocks) : Action → OwnerLocks
  | .lock caller owner => l.request caller owner
  | .release caller => l.release caller
  | .abandon caller => l.abandon caller

/-- The locks after an action, when the waiting calls have been served. -/
def step (l : OwnerLocks) (action : Action) : OwnerLocks := (l.apply action).grant

end OwnerLocks
end LinkLedger
