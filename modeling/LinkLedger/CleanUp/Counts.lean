import LinkLedger.CleanUp.Locks

/-!
# Locks with counts of their references

How many refer to a lock need not be found out by looking at all calls: every lock comes with a
count, which goes up when an entry or a call begins to refer to the lock, and down when an entry or
a call goes.  Locks whose counts say that only their entries refer to them are forgotten.

A call that waits is polled again and again, at times of no meaning.  It gets its lock if it is
polled when no call before it refers to the lock any longer.
-/

namespace LinkLedger
namespace OwnerLocks

/-- Polls the call at a place, which gets its lock if no call before it refers to the lock. -/
def poll (l : OwnerLocks) (place : Nat) : OwnerLocks :=
  match l.calls[place]? with
  | some c =>
      if (l.calls.take place).any fun d => d.lock == c.lock then l
      else { l with calls := l.calls.set place { c with held := true } }
  | none => l

/-- What can happen to the locks at any time: an action, a call that is polled, and the question
how many owners are active. -/
inductive Event where
  | action (action : Action)
  | poll (place : Nat)
  | active
  deriving DecidableEq, Repr

/-- Someone asks for the lock of an owner, and calls are polled behind it. -/
def asking (caller : String) (owner : Owner) (places : List Nat) : List Event :=
  .action (.lock caller owner) :: places.map .poll

/-- The locks behind an event; to answer a question changes nothing. -/
def after (l : OwnerLocks) : Event → OwnerLocks
  | .action action => l.apply action
  | .poll place => l.poll place
  | .active => l

/-- The owners whose locks are in the map. -/
def owners (l : OwnerLocks) : List Owner := l.locks.map (·.1)

/-- The calls that hold the lock of an owner. -/
def holders (l : OwnerLocks) (owner : Owner) : List LockCall :=
  l.calls.filter fun c => c.owner == owner && c.held

/-- The calls that wait for the lock of an owner. -/
def waiters (l : OwnerLocks) (owner : Owner) : List LockCall :=
  l.calls.filter fun c => c.owner == owner && !c.held

/-- Someone holds the lock of an owner or waits for it. -/
def InUse (l : OwnerLocks) (owner : Owner) : Prop :=
  l.holders owner ≠ [] ∨ l.waiters owner ≠ []

end OwnerLocks

/-- Locks of owners, with a count for every lock. -/
structure CountedLocks extends OwnerLocks where
  count : Nat → Nat

namespace CountedLocks

/-- No locks. -/
def empty : CountedLocks := ⟨.empty, fun _ => 0⟩

/-- Forgets the locks whose counts say that only their entries refer to them. -/
def prune (s : CountedLocks) : CountedLocks where
  locks := s.locks.filter fun e => 1 < s.count e.2
  calls := s.calls
  next := s.next
  count n :=
    s.count n - (s.locks.filter fun e => !decide (1 < s.count e.2)).countP fun e => e.2 == n

/-- Makes a lock for an owner; its entry refers to it. -/
def insert (s : CountedLocks) (owner : Owner) : CountedLocks where
  locks := s.locks ++ [(owner, s.next)]
  calls := s.calls
  next := s.next + 1
  count n := if n = s.next then 1 else s.count n

/-- Adds a call, which refers to its lock. -/
def join (s : CountedLocks) (c : LockCall) : CountedLocks where
  locks := s.locks
  calls := s.calls ++ [c]
  next := s.next
  count n := if n = c.lock then s.count n + 1 else s.count n

/-- Lets calls go, which do not refer to their locks any longer. -/
def leave (s : CountedLocks) (leaves : LockCall → Bool) : CountedLocks where
  locks := s.locks
  calls := s.calls.filter fun c => !leaves c
  next := s.next
  count n := s.count n - (s.calls.filter leaves).countP fun c => c.lock == n

/-- Asks for the lock of an owner. -/
def request (s : CountedLocks) (caller : String) (owner : Owner) : CountedLocks :=
  let s := s.prune
  match s.locks.lookup owner with
  | some lock => s.join ⟨caller, owner, lock, false⟩
  | none => (s.insert owner).join ⟨caller, owner, s.next, false⟩

/-- The number of owners whose locks have counts that say that calls refer to them. -/
def active (s : CountedLocks) : Nat := s.locks.countP fun e => 1 < s.count e.2

/-- The locks behind an event. -/
def after (s : CountedLocks) : OwnerLocks.Event → CountedLocks
  | .action (.lock caller owner) => s.request caller owner
  | .action (.release caller) => s.leave fun c => c.caller == caller && c.held
  | .action (.abandon caller) => s.leave fun c => c.caller == caller && !c.held
  | .poll place => { s with toOwnerLocks := s.toOwnerLocks.poll place }
  | .active => s

/-- The locks behind events, from the beginning on. -/
def run (events : List OwnerLocks.Event) : CountedLocks := events.foldl after empty

end CountedLocks
end LinkLedger
