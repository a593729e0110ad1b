import LinkLedger.CleanUp.Locks
import Mathlib.Data.List.Nodup

/-!
# Queues that are never forgotten

The simplest way to give owners locks is a queue for every owner, kept for ever: whoever asks goes
to the end of the queue, the head of the queue has the lock, and the others wait.

**Results.**
* `OwnerQueues`: the queues; `OwnerQueues.step`: what an action does to them.
* `Lined`: all calls in one list, in the order in which they were made; `Lined.step`: every action
  keeps such a list.
* `Lined.waiting_eq`, `Lined.acquiring_eq`: what the queues show, read off that list.
-/

namespace LinkLedger

/-- A call in a queue: its number among all calls, who makes it, and whose lock it is for. -/
structure Ticket where
  number : Nat
  caller : String
  owner : Owner
  deriving DecidableEq, Repr

/-- A queue for every owner, the owners that have been asked for, and the number of the next
call. -/
structure OwnerQueues where
  owners : List Owner
  queue : Owner → List Ticket
  next : Nat

namespace OwnerQueues

/-- Nobody has asked for anything. -/
def empty : OwnerQueues := ⟨[], fun _ => [], 0⟩

/-- Goes to the end of the queue of an owner. -/
def request (q : OwnerQueues) (caller : String) (owner : Owner) : OwnerQueues where
  owners := if owner ∈ q.owners then q.owners else q.owners ++ [owner]
  queue o := if o = owner then q.queue o ++ [⟨q.next, caller, owner⟩] else q.queue o
  next := q.next + 1

/-- A queue when someone goes who has the lock. -/
def leave (caller : String) : List Ticket → List Ticket
  | [] => []
  | t :: ts => if t.caller = caller then ts else t :: ts

/-- A queue when someone does not wait any longer. -/
def giveUp (caller : String) : List Ticket → List Ticket
  | [] => []
  | t :: ts => t :: ts.filter fun u => u.caller != caller

/-- The queues behind an action. -/
def step (q : OwnerQueues) : OwnerLocks.Action → OwnerQueues
  | .lock caller owner => q.request caller owner
  | .release caller => { q with queue := fun o => leave caller (q.queue o) }
  | .abandon caller => { q with queue := fun o => giveUp caller (q.queue o) }

/-- The calls at the heads of the queues. -/
def holders (q : OwnerQueues) : List Ticket := q.owners.filterMap fun o => (q.queue o).head?

/-- The calls behind the heads of the queues. -/
def waiters (q : OwnerQueues) : List Ticket := q.owners.flatMap fun o => (q.queue o).tail

/-- Who makes calls, in the order in which these were made. -/
def inOrder (ts : List Ticket) : List String :=
  (ts.mergeSort fun a b => a.number ≤ b.number).map (·.caller)

/-- Who gets to the head of a queue by an action. -/
def acquiring (q : OwnerQueues) (action : OwnerLocks.Action) : List String :=
  inOrder ((q.step action).holders.filter fun t => !q.holders.contains t)

/-- Who waits. -/
def waiting (q : OwnerQueues) : List String := inOrder q.waiters

/-- The number of queues that are not empty. -/
def active (q : OwnerQueues) : Nat := q.owners.countP fun o => !(q.queue o).isEmpty

/-- Whether a call is at the head of its queue. -/
def holds (q : OwnerQueues) (t : Ticket) : Bool := (q.queue t.owner).head? == some t

/-! ## All calls in one list -/

/-- A list of all calls in the order in which they were made: the queue of an owner has those that
are for the lock of the owner. -/
structure Lined (q : OwnerQueues) (calls : List Ticket) : Prop where
  ascending : calls.Pairwise fun a b => a.number < b.number
  bounded : ∀ t ∈ calls, t.number < q.next
  queue_eq : ∀ o, q.queue o = calls.filter fun t => t.owner == o
  nodup : q.owners.Nodup
  owner_mem : ∀ t ∈ calls, t.owner ∈ q.owners

/-- The list of all calls behind an action. -/
def callsAfter (q : OwnerQueues) (calls : List Ticket) : OwnerLocks.Action → List Ticket
  | .lock caller owner => calls ++ [⟨q.next, caller, owner⟩]
  | .release caller => calls.filter fun t => !(t.caller == caller && q.holds t)
  | .abandon caller => calls.filter fun t => !(t.caller == caller && !q.holds t)

variable {q : OwnerQueues} {calls : List Ticket}

theorem Lined.nodup_calls
    (h : Lined q calls) :
    calls.Nodup :=
  h.ascending.imp fun hlt heq => by
    rw [heq] at hlt
    exact Nat.lt_irrefl _ hlt

theorem Lined.nodup_queue
    (h : Lined q calls)
    (o : Owner) :
    (q.queue o).Nodup := by
  rw [h.queue_eq]
  exact h.nodup_calls.filter _

theorem Lined.mem_queue
    (h : Lined q calls)
    {o : Owner}
    {t : Ticket} :
    t ∈ q.queue o ↔ t ∈ calls ∧ t.owner = o := by
  rw [h.queue_eq, List.mem_filter, beq_iff_eq]

theorem lined_empty :
    Lined empty [] :=
  ⟨List.Pairwise.nil, by simp, fun _ => rfl, List.nodup_nil, by simp⟩

/-- A call is at the head of its queue exactly if none for the same lock was made before it. -/
theorem Lined.holds_iff
    (h : Lined q calls)
    {front back : List Ticket}
    {t : Ticket}
    (hcalls : calls = front ++ t :: back) :
    q.holds t = true ↔ ∀ u ∈ front, u.owner ≠ t.owner := by
  have hnodup := h.nodup_calls
  rw [hcalls, List.nodup_append] at hnodup
  have hqueue : q.queue t.owner =
      (front.filter fun u => u.owner == t.owner) ++
        t :: back.filter fun u => u.owner == t.owner := by
    rw [h.queue_eq, hcalls, List.filter_append, List.filter_cons_of_pos (by simp)]
  rw [holds, beq_iff_eq, hqueue]
  cases hfront : front.filter fun u => u.owner == t.owner with
  | nil =>
      rw [List.nil_append, List.head?_cons]
      refine ⟨fun _ u hu howner => ?_, fun _ => rfl⟩
      have hnone := List.filter_eq_nil_iff.1 hfront u hu
      exact hnone (beq_iff_eq.2 howner)
  | cons u us =>
      have hu : u ∈ front.filter fun u => u.owner == t.owner := by
        rw [hfront]
        exact List.mem_cons_self
      obtain ⟨humem, howner⟩ := List.mem_filter.1 hu
      rw [List.cons_append, List.head?_cons]
      constructor
      · intro heq
        exact absurd (Option.some.inj heq) (hnodup.2.2 u humem t List.mem_cons_self)
      · intro hnone
        exact absurd (beq_iff_eq.1 howner) (hnone u humem)

/-- Behind a call there is no head of its queue. -/
theorem Lined.pairwise_holds
    (h : Lined q calls) :
    calls.Pairwise fun a b => q.holds b = true → a.owner ≠ b.owner := by
  rw [List.pairwise_iff_getElem]
  intro i j hi hj hlt hholds
  have hcalls : calls = calls.take j ++ calls[j] :: calls.drop (j + 1) := by
    rw [← List.drop_eq_getElem_cons hj, List.take_append_drop]
  refine (h.holds_iff hcalls).1 hholds calls[i] ?_
  exact List.mem_take_iff_getElem.2 ⟨i, by omega, rfl⟩

/-- The head of a queue has the lock, and the calls behind it do not. -/
theorem Lined.holds_of_queue
    (h : Lined q calls)
    {o : Owner}
    {t : Ticket}
    {ts : List Ticket}
    (hqueue : q.queue o = t :: ts) :
    q.holds t = true ∧ ∀ u ∈ ts, q.holds u = false := by
  have howner : ∀ u ∈ t :: ts, u.owner = o := fun u hu =>
    (h.mem_queue.1 (by rw [hqueue]; exact hu)).2
  have hnodup := h.nodup_queue o
  rw [hqueue, List.nodup_cons] at hnodup
  constructor
  · rw [holds, howner t List.mem_cons_self, hqueue, List.head?_cons, beq_self_eq_true]
  · intro u hu
    rw [holds, howner u (List.mem_cons_of_mem _ hu), hqueue, List.head?_cons,
      beq_eq_false_iff_ne]
    intro heq
    rw [Option.some.inj heq] at hnodup
    exact hnodup.1 hu

/-- A call that has not been made yet has no lock. -/
theorem Lined.holds_next
    (h : Lined q calls)
    (caller : String)
    (owner : Owner) :
    q.holds ⟨q.next, caller, owner⟩ = false := by
  rw [holds, beq_eq_false_iff_ne]
  intro hhead
  have hmem := (h.mem_queue.1 (List.mem_of_head? hhead)).1
  exact Nat.lt_irrefl _ (h.bounded _ hmem)

/-! ## Actions keep the list -/

theorem mem_owners_request
    {q : OwnerQueues}
    {caller : String}
    {owner o : Owner} :
    o ∈ (q.request caller owner).owners ↔ o ∈ q.owners ∨ o = owner := by
  rw [request]
  dsimp only
  split
  · next hold =>
    constructor
    · exact Or.inl
    · rintro (ho | rfl)
      · exact ho
      · exact hold
  · rw [List.mem_append, List.mem_singleton]

theorem nodup_owners_request
    {q : OwnerQueues}
    (h : q.owners.Nodup)
    (caller : String)
    (owner : Owner) :
    (q.request caller owner).owners.Nodup := by
  rw [request]
  dsimp only
  split
  · exact h
  · next hnew =>
    refine List.nodup_append.2 ⟨h, List.pairwise_singleton _ _, ?_⟩
    intro o ho o' ho' heq
    rw [List.mem_singleton.1 ho'] at heq
    exact hnew (heq ▸ ho)

theorem Lined.request
    (h : Lined q calls)
    (caller : String)
    (owner : Owner) :
    Lined (q.request caller owner) (calls ++ [⟨q.next, caller, owner⟩]) := by
  refine ⟨?_, ?_, ?_, nodup_owners_request h.nodup caller owner, ?_⟩
  · refine List.pairwise_append.2 ⟨h.ascending, List.pairwise_singleton _ _, ?_⟩
    intro t ht u hu
    rw [List.mem_singleton.1 hu]
    exact h.bounded t ht
  · intro t ht
    rcases List.mem_append.1 ht with ht | ht
    · exact Nat.lt_succ_of_lt (h.bounded t ht)
    · rw [List.mem_singleton.1 ht]
      exact Nat.lt_succ_self _
  · intro o
    rw [List.filter_append, ← h.queue_eq]
    by_cases ho : o = owner
    · subst ho
      simp [OwnerQueues.request]
    · simp [OwnerQueues.request, ho, Ne.symm ho]
  · intro t ht
    rcases List.mem_append.1 ht with ht | ht
    · exact mem_owners_request.2 (Or.inl (h.owner_mem t ht))
    · rw [List.mem_singleton.1 ht]
      exact mem_owners_request.2 (Or.inr rfl)

/-- Calls may be left out of the list if they are left out of the queues. -/
theorem Lined.filter
    (h : Lined q calls)
    {p : Ticket → Bool}
    {queue : Owner → List Ticket}
    (hqueue : ∀ o, queue o = (q.queue o).filter p) :
    Lined { q with queue := queue } (calls.filter p) := by
  refine ⟨h.ascending.filter p, fun t ht => h.bounded t (List.mem_filter.1 ht).1, fun o => ?_,
    h.nodup, fun t ht => h.owner_mem t (List.mem_filter.1 ht).1⟩
  change queue o = _
  rw [hqueue, h.queue_eq, List.filter_filter, List.filter_filter]
  exact List.filter_congr fun t _ => Bool.and_comm _ _

theorem Lined.leave_eq
    (h : Lined q calls)
    (caller : String)
    (o : Owner) :
    leave caller (q.queue o) =
      (q.queue o).filter fun t => !(t.caller == caller && q.holds t) := by
  cases hqueue : q.queue o with
  | nil => rfl
  | cons t ts =>
      obtain ⟨hhead, htail⟩ := h.holds_of_queue hqueue
      have hrest : (ts.filter fun t => !(t.caller == caller && q.holds t)) = ts :=
        List.filter_eq_self.2 fun u hu => by rw [htail u hu, Bool.and_false, Bool.not_false]
      rw [List.filter_cons, hrest, hhead, leave]
      by_cases hcaller : t.caller = caller
      · simp [hcaller]
      · simp [hcaller]

theorem Lined.giveUp_eq
    (h : Lined q calls)
    (caller : String)
    (o : Owner) :
    giveUp caller (q.queue o) =
      (q.queue o).filter fun t => !(t.caller == caller && !q.holds t) := by
  cases hqueue : q.queue o with
  | nil => rfl
  | cons t ts =>
      obtain ⟨hhead, htail⟩ := h.holds_of_queue hqueue
      have hrest : (ts.filter fun t => !(t.caller == caller && !q.holds t)) =
          ts.filter fun u => u.caller != caller := by
        refine List.filter_congr fun u hu => ?_
        rw [htail u hu, Bool.not_false, Bool.and_true]
        rfl
      rw [List.filter_cons_of_pos (by simp [hhead]), hrest]
      rfl

/-- Every action keeps a list of all calls. -/
theorem Lined.step
    (h : Lined q calls)
    (action : OwnerLocks.Action) :
    Lined (q.step action) (q.callsAfter calls action) := by
  cases action with
  | lock caller owner => exact h.request caller owner
  | release caller => exact h.filter (h.leave_eq caller)
  | abandon caller => exact h.filter (h.giveUp_eq caller)

/-- Behind a call there is none that had the lock before the last action. -/
theorem Lined.pairwise_callsAfter
    (h : Lined q calls)
    (action : OwnerLocks.Action) :
    (q.callsAfter calls action).Pairwise fun a b => q.holds b = true → a.owner ≠ b.owner := by
  cases action with
  | lock caller owner =>
      refine List.pairwise_append.2 ⟨h.pairwise_holds, List.pairwise_singleton _ _, ?_⟩
      intro t ht u hu hholds
      rw [List.mem_singleton.1 hu, h.holds_next] at hholds
      cases hholds
  | release caller => exact h.pairwise_holds.filter _
  | abandon caller => exact h.pairwise_holds.filter _

/-! ## What the queues show -/

theorem Lined.mem_holders
    (h : Lined q calls)
    {t : Ticket} :
    t ∈ q.holders ↔ t ∈ calls ∧ q.holds t = true := by
  rw [holders, List.mem_filterMap, holds, beq_iff_eq]
  constructor
  · rintro ⟨o, -, hhead⟩
    obtain ⟨hmem, rfl⟩ := h.mem_queue.1 (List.mem_of_head? hhead)
    exact ⟨hmem, hhead⟩
  · rintro ⟨hmem, hhead⟩
    exact ⟨t.owner, h.owner_mem t hmem, hhead⟩

theorem Lined.contains_holders
    (h : Lined q calls)
    (t : Ticket) :
    q.holders.contains t = q.holds t := by
  rw [Bool.eq_iff_iff, List.contains_iff_mem, h.mem_holders, and_iff_right_iff_imp]
  intro hholds
  exact (h.mem_queue.1 (List.mem_of_head? (beq_iff_eq.1 hholds))).1

theorem Lined.mem_waiters
    (h : Lined q calls)
    {t : Ticket} :
    t ∈ q.waiters ↔ t ∈ calls ∧ q.holds t = false := by
  rw [waiters, List.mem_flatMap]
  constructor
  · rintro ⟨o, -, htail⟩
    cases hqueue : q.queue o with
    | nil =>
        rw [hqueue] at htail
        cases htail
    | cons u us =>
        rw [hqueue, List.tail_cons] at htail
        have hmem : t ∈ calls ∧ t.owner = o :=
          h.mem_queue.1 (by rw [hqueue]; exact List.mem_cons_of_mem _ htail)
        exact ⟨hmem.1, (h.holds_of_queue hqueue).2 t htail⟩
  · rintro ⟨hmem, hholds⟩
    refine ⟨t.owner, h.owner_mem t hmem, ?_⟩
    have hqueue : t ∈ q.queue t.owner := h.mem_queue.2 ⟨hmem, rfl⟩
    cases hlist : q.queue t.owner with
    | nil =>
        rw [hlist] at hqueue
        cases hqueue
    | cons u us =>
        rw [hlist] at hqueue
        rcases List.mem_cons.1 hqueue with rfl | htail
        · rw [(h.holds_of_queue hlist).1] at hholds
          cases hholds
        · exact htail

theorem Lined.nodup_holders
    (h : Lined q calls) :
    q.holders.Nodup := by
  rw [holders, List.Nodup, List.pairwise_filterMap]
  refine h.nodup.imp fun hne t ht u hu heq => hne ?_
  rw [← (h.mem_queue.1 (List.mem_of_head? ht)).2, ← (h.mem_queue.1 (List.mem_of_head? hu)).2, heq]

theorem Lined.nodup_waiters
    (h : Lined q calls) :
    q.waiters.Nodup := by
  rw [waiters, List.Nodup, List.pairwise_flatMap]
  constructor
  · intro o _
    exact (h.nodup_queue o).sublist (List.tail_sublist _)
  · refine h.nodup.imp fun hne t ht u hu heq => hne ?_
    rw [← (h.mem_queue.1 (List.mem_of_mem_tail ht)).2,
      ← (h.mem_queue.1 (List.mem_of_mem_tail hu)).2, heq]

/-- A number stands for one call. -/
theorem Lined.eq_of_number
    (h : Lined q calls)
    {t u : Ticket}
    (ht : t ∈ calls)
    (hu : u ∈ calls)
    (heq : t.number = u.number) :
    t = u :=
  List.inj_on_of_nodup_map (List.pairwise_map.2 (h.ascending.imp Nat.ne_of_lt)) ht hu heq

theorem pairwise_mergeSort_number
    (ts : List Ticket) :
    (ts.mergeSort fun a b => a.number ≤ b.number).Pairwise fun a b => a.number ≤ b.number := by
  have hsorted : (ts.mergeSort fun a b => a.number ≤ b.number).Pairwise
      fun a b => decide (a.number ≤ b.number) = true := by
    refine List.pairwise_mergeSort ?_ ?_ ts
    · intro a b c hab hbc
      rw [decide_eq_true_eq] at hab hbc ⊢
      exact Nat.le_trans hab hbc
    · intro a b
      rw [Bool.or_eq_true, decide_eq_true_eq, decide_eq_true_eq]
      exact Nat.le_total a.number b.number
  exact hsorted.imp fun hle => of_decide_eq_true hle

/-- Calls in their order are those of the list of all calls. -/
theorem Lined.inOrder_eq
    (h : Lined q calls)
    {ts : List Ticket}
    {p : Ticket → Bool}
    (hnodup : ts.Nodup)
    (hmem : ∀ t, t ∈ ts ↔ t ∈ calls ∧ p t = true) :
    inOrder ts = (calls.filter p).map (·.caller) := by
  have hperm : ts.Perm (calls.filter p) :=
    (List.perm_ext_iff_of_nodup hnodup (h.nodup_calls.filter p)).2 fun t => by
      rw [hmem, List.mem_filter]
  have hascending : (calls.filter p).Pairwise fun a b => a.number ≤ b.number :=
    (h.ascending.filter p).imp Nat.le_of_lt
  have heq : (ts.mergeSort fun a b => a.number ≤ b.number) = calls.filter p := by
    refine List.Perm.eq_of_pairwise ?_ (pairwise_mergeSort_number ts) hascending
      ((List.mergeSort_perm ts _).trans hperm)
    intro t u ht hu hle hge
    have ht := ((hmem t).1 (List.mem_mergeSort.1 ht)).1
    exact h.eq_of_number ht (List.mem_filter.1 hu).1 (Nat.le_antisymm hle hge)
  rw [inOrder, heq]

/-- Those wait who have no lock. -/
theorem Lined.waiting_eq
    (h : Lined q calls) :
    q.waiting = (calls.filter fun t => !q.holds t).map (·.caller) := by
  refine h.inOrder_eq h.nodup_waiters fun t => ?_
  rw [h.mem_waiters, Bool.not_eq_true']

/-- Those get a lock who have it behind an action and had it not before. -/
theorem Lined.acquiring_eq
    (h : Lined q calls)
    (action : OwnerLocks.Action) :
    q.acquiring action =
      ((q.callsAfter calls action).filter fun t => !q.holds t && (q.step action).holds t).map
        (·.caller) := by
  have hafter := h.step action
  refine hafter.inOrder_eq (hafter.nodup_holders.filter _) fun t => ?_
  rw [List.mem_filter, hafter.mem_holders, h.contains_holders, Bool.and_eq_true, and_assoc,
    and_comm (a := (q.step action).holds t = true)]

end OwnerQueues
end LinkLedger
