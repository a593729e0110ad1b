import LinkLedger.CleanUp.Counts
import LinkLedger.Proofs.CleanUp.LockMap

/-!
# Calls that are polled one by one

Between two actions any of the waiting calls may be polled, in any order, or none at all.  The map
of locks stays as sound as it is when all waiting calls are served behind every action, and that is
one of the ways in which they may be polled.

**Results.**
* `poll_cases`: what it does to poll a call.
* `Fair`: the map is sound, and holders are the first for their locks; `Fair.after`: every event
  keeps it.
* `Fair.grant_eq`, `Fair.exists_foldl_step`: serving the waiting calls polls all of them in the
  order of their arrival.
* `MapSound.references_eq`: the references to a lock are its entry, its holders and its waiters.
* `MapSound.mem_owners_request`: behind a request the map has the owners whose locks are in use.
-/

namespace LinkLedger
namespace OwnerLocks

variable {l : OwnerLocks} {owner : Owner}

/-! ## What it does to poll a call -/

/-- The call behind some others is polled. -/
theorem poll_append
    {front back : List LockCall}
    {c : LockCall}
    (hcalls : l.calls = front ++ c :: back) :
    l.poll front.length =
      if front.any (fun d => d.lock == c.lock) then l
      else { l with calls := front ++ { c with held := true } :: back } := by
  have hplace : l.calls[front.length]? = some c := by
    rw [hcalls, List.getElem?_append_right (Nat.le_refl _), Nat.sub_self]
    rfl
  have hset : l.calls.set front.length { c with held := true } =
      front ++ { c with held := true } :: back := by
    rw [hcalls, List.set_append_right _ _ (Nat.le_refl _), Nat.sub_self]
    rfl
  have htake : l.calls.take front.length = front := by
    rw [hcalls, List.take_left]
  simp only [poll, hplace, hset, htake]

/-- To poll a call changes nothing, or the call is the first for its lock and gets it. -/
theorem poll_cases
    (l : OwnerLocks)
    (place : Nat) :
    l.poll place = l ∨
      ∃ front c back, l.calls = front ++ c :: back ∧ (∀ d ∈ front, d.lock ≠ c.lock) ∧
        l.poll place = { l with calls := front ++ { c with held := true } :: back } := by
  by_cases hplace : place < l.calls.length
  · have hcalls : l.calls = l.calls.take place ++ l.calls[place] :: l.calls.drop (place + 1) := by
      rw [← List.drop_eq_getElem_cons hplace, List.take_append_drop]
    have hpoll := poll_append hcalls
    rw [List.length_take_of_le (Nat.le_of_lt hplace)] at hpoll
    rw [hpoll]
    split
    · exact Or.inl rfl
    · next hfirst =>
      refine Or.inr ⟨_, _, _, hcalls, fun d hd hlock => hfirst ?_, rfl⟩
      exact List.any_eq_true.2 ⟨d, hd, beq_iff_eq.2 hlock⟩
  · refine Or.inl ?_
    rw [poll, List.getElem?_eq_none (Nat.le_of_not_lt hplace)]

theorem locks_poll
    (l : OwnerLocks)
    (place : Nat) :
    (l.poll place).locks = l.locks := by
  rcases l.poll_cases place with hpoll | ⟨front, c, back, -, -, hpoll⟩
  · rw [hpoll]
  · rw [hpoll]

/-- Polling changes nothing about the calls but who holds a lock. -/
theorem map_calls_poll
    {α : Type}
    (l : OwnerLocks)
    (place : Nat)
    {f : LockCall → α}
    (hf : ∀ c : LockCall, f { c with held := true } = f c) :
    (l.poll place).calls.map f = l.calls.map f := by
  rcases l.poll_cases place with hpoll | ⟨front, c, back, hcalls, -, hpoll⟩
  · rw [hpoll]
  · rw [hpoll, hcalls, List.map_append, List.map_append, List.map_cons, List.map_cons, hf]

/-! ## Events keep the map sound -/

/-- Calls are for one lock exactly if they are for one owner. -/
theorem MapSound.lock_eq_iff
    (h : MapSound l)
    {c d : LockCall}
    (hc : c ∈ l.calls)
    (hd : d ∈ l.calls) :
    c.lock = d.lock ↔ c.owner = d.owner :=
  h.lock_iff (h.known c hc) (h.known d hd)

/-- The map is sound, and nobody holds a lock behind another call for it. -/
structure Fair (l : OwnerLocks) : Prop where
  map : MapSound l
  first : l.calls.Pairwise fun a b => b.held = true → a.owner ≠ b.owner

theorem fair_empty :
    Fair empty :=
  ⟨mapSound_empty, List.Pairwise.nil⟩

theorem Fair.apply
    (h : Fair l)
    (action : Action) :
    Fair (l.apply action) := by
  refine ⟨h.map.apply action, ?_⟩
  cases action with
  | lock caller owner =>
      obtain ⟨lock, hcalls⟩ := l.request_calls caller owner
      rw [OwnerLocks.apply, hcalls]
      refine List.pairwise_append.2 ⟨h.first, List.pairwise_singleton _ _, ?_⟩
      intro a _ b hb hheld
      rw [List.mem_singleton.1 hb] at hheld
      cases hheld
  | release caller => exact h.first.filter _
  | abandon caller => exact h.first.filter _

theorem MapSound.poll
    (h : MapSound l)
    (place : Nat) :
    MapSound (l.poll place) := by
  rcases l.poll_cases place with hpoll | ⟨front, c, back, hcalls, -, hpoll⟩
  · rw [hpoll]
    exact h
  · rw [hpoll]
    refine h.of_calls fun d hd => ?_
    rw [List.mem_append, List.mem_cons] at hd
    rw [hcalls]
    rcases hd with hd | rfl | hd
    · exact ⟨d, List.mem_append_left _ hd, rfl, rfl⟩
    · exact ⟨c, List.mem_append_right _ List.mem_cons_self, rfl, rfl⟩
    · exact ⟨d, List.mem_append_right _ (List.mem_cons_of_mem _ hd), rfl, rfl⟩

theorem Fair.poll
    (h : Fair l)
    (place : Nat) :
    Fair (l.poll place) := by
  refine ⟨h.map.poll place, ?_⟩
  rcases l.poll_cases place with hpoll | ⟨front, c, back, hcalls, hfirst, hpoll⟩
  · rw [hpoll]
    exact h.first
  · have hfront : ∀ a ∈ front, a.owner ≠ c.owner := fun a ha howner => by
      have ha' : a ∈ l.calls := by
        rw [hcalls]
        exact List.mem_append_left _ ha
      have hc : c ∈ l.calls := by
        rw [hcalls]
        exact List.mem_append_right _ List.mem_cons_self
      exact hfirst a ha ((h.map.lock_eq_iff ha' hc).2 howner)
    have hpairwise := h.first
    rw [hcalls, List.pairwise_append, List.pairwise_cons] at hpairwise
    obtain ⟨hbefore, hbehind, hacross⟩ := hpairwise
    rw [hpoll]
    refine List.pairwise_append.2 ⟨hbefore, List.pairwise_cons.2 hbehind, ?_⟩
    intro a ha b hb hheld
    rcases List.mem_cons.1 hb with rfl | hb
    · exact hfront a ha
    · exact hacross a ha b (List.mem_cons_of_mem _ hb) hheld

/-- Every event keeps the map sound and the holders first. -/
theorem Fair.after
    (h : Fair l)
    (event : Event) :
    Fair (l.after event) := by
  cases event with
  | action action => exact h.apply action
  | poll place => exact h.poll place
  | active => exact h

theorem Fair.foldl_after
    (h : Fair l)
    (events : List Event) :
    Fair (events.foldl OwnerLocks.after l) := by
  induction events generalizing l with
  | nil => exact h
  | cons event events ih => exact ih (h.after event)

/-- At most one call holds the lock of an owner. -/
theorem Fair.length_holders_le
    (h : Fair l)
    (owner : Owner) :
    (l.holders owner).length ≤ 1 := by
  have hpairwise := h.first.filter fun c => c.owner == owner && c.held
  have hmem : ∀ c ∈ l.holders owner, c.owner = owner ∧ c.held = true := fun c hc => by
    simpa using (List.mem_filter.1 hc).2
  change (l.holders owner).Pairwise _ at hpairwise
  match hlist : l.holders owner with
  | [] => exact Nat.zero_le 1
  | [_] => exact Nat.le_refl 1
  | a :: b :: rest =>
      rw [hlist] at hpairwise hmem
      obtain ⟨hb, hheld⟩ := hmem b (by simp)
      have hne := (List.pairwise_cons.1 hpairwise).1 b List.mem_cons_self hheld
      exact absurd ((hmem a List.mem_cons_self).1.trans hb.symm) hne

/-! ## To serve the waiting calls is to poll them all -/

/-- To poll the call behind some others, whose owners are in `seen`, serves it. -/
theorem Fair.poll_eq
    (h : Fair l)
    {front back : List LockCall}
    {c : LockCall}
    {seen : List Owner}
    (hcalls : l.calls = front ++ c :: back)
    (hseen : ∀ o, o ∈ seen ↔ ∃ d ∈ front, d.owner = o) :
    l.poll front.length =
      { l with calls := front ++ { c with held := !seen.contains c.owner } :: back } := by
  have hfront : ∀ d ∈ front, d ∈ l.calls := fun d hd => by
    rw [hcalls]
    exact List.mem_append_left _ hd
  have hc : c ∈ l.calls := by
    rw [hcalls]
    exact List.mem_append_right _ List.mem_cons_self
  have hany : front.any (fun d => d.lock == c.lock) = seen.contains c.owner := by
    rw [Bool.eq_iff_iff, List.any_eq_true, List.contains_iff_mem, hseen]
    refine exists_congr fun d => and_congr_right fun hd => ?_
    rw [beq_iff_eq, h.map.lock_eq_iff (hfront d hd) hc]
  rw [poll_append hcalls, hany]
  cases hcontains : seen.contains c.owner with
  | true =>
      -- Holders are the first for their locks, so a call that is not has none to lose.
      have hheld : c.held = false := by
        obtain ⟨d, hd, howner⟩ := (hseen c.owner).1 (List.contains_iff_mem.1 hcontains)
        have hpairwise := h.first
        rw [hcalls, List.pairwise_append] at hpairwise
        rw [← Bool.not_eq_true]
        exact fun hholds => hpairwise.2.2 d hd c List.mem_cons_self hholds howner
      have hsame : { c with held := false } = c := by rw [← hheld]
      rw [if_pos rfl, Bool.not_true, hsame, ← hcalls]
  | false => rw [if_neg Bool.false_ne_true, Bool.not_false]

/-- To poll the calls behind some others, whose owners are in `seen`, one after the other serves
them. -/
theorem Fair.foldl_poll
    (h : Fair l)
    {front rest : List LockCall}
    {seen : List Owner}
    (hcalls : l.calls = front ++ rest)
    (hseen : ∀ o, o ∈ seen ↔ ∃ d ∈ front, d.owner = o) :
    (List.range' front.length rest.length).foldl OwnerLocks.poll l =
      { l with calls := front ++ served seen rest } := by
  induction rest generalizing l front seen with
  | nil =>
      rw [served, ← hcalls]
      rfl
  | cons c rest ih =>
      have hpoll := h.poll_eq hcalls hseen
      have hfair := h.poll front.length
      rw [hpoll] at hfair
      have hseen' : ∀ o, o ∈ c.owner :: seen ↔
          ∃ d ∈ front ++ [{ c with held := !seen.contains c.owner }], d.owner = o := by
        intro o
        simp [hseen, or_comm, or_and_right, exists_or, eq_comm]
      have hrest := ih hfair (by rw [List.append_assoc, List.singleton_append]) hseen'
      rw [List.length_append, List.length_singleton, List.append_assoc,
        List.singleton_append] at hrest
      rw [List.length_cons, List.range'_succ, List.foldl_cons, hpoll, hrest, served]

/-- Serving the waiting calls polls all calls in the order of their arrival. -/
theorem Fair.grant_eq
    (h : Fair l) :
    l.grant = (List.range l.calls.length).foldl OwnerLocks.poll l := by
  have hnone : ∀ o : Owner, o ∈ ([] : List Owner) ↔ ∃ d ∈ ([] : List LockCall), d.owner = o := by
    simp
  have hpolls := h.foldl_poll (List.nil_append l.calls).symm hnone
  rw [List.nil_append, ← h.map.grant_calls h.first, List.length_nil,
    ← List.range_eq_range'] at hpolls
  rw [hpolls]
  rfl

theorem Fair.step_eq
    (h : Fair l)
    (action : Action) :
    l.step action =
      (.action action :: (List.range (l.apply action).calls.length).map Event.poll).foldl
        OwnerLocks.after l := by
  rw [List.foldl_cons, List.foldl_map]
  exact (h.apply action).grant_eq

/-- Actions behind which all waiting calls are served are events, one after the other. -/
theorem Fair.exists_foldl_step
    (h : Fair l)
    (actions : List Action) :
    ∃ events : List Event, events.foldl OwnerLocks.after l = actions.foldl OwnerLocks.step l := by
  induction actions generalizing l with
  | nil => exact ⟨[], rfl⟩
  | cons action actions ih =>
      have hstep := h.step_eq action
      obtain ⟨events, hevents⟩ := ih (hstep ▸ h.foldl_after _ : Fair (l.step action))
      refine ⟨(.action action :: (List.range (l.apply action).calls.length).map Event.poll) ++
        events, ?_⟩
      rw [List.foldl_append, ← hstep, hevents]
      rfl

/-! ## Locks in use -/

/-- A lock is in use if there is a call for it. -/
theorem inUse_iff :
    l.InUse owner ↔ ∃ c ∈ l.calls, c.owner = owner := by
  constructor
  · rintro (hholders | hwaiters)
    · obtain ⟨c, hc⟩ := List.exists_mem_of_ne_nil _ hholders
      obtain ⟨hcall, hholds⟩ := List.mem_filter.1 hc
      exact ⟨c, hcall, beq_iff_eq.1 (Bool.and_eq_true_iff.1 hholds).1⟩
    · obtain ⟨c, hc⟩ := List.exists_mem_of_ne_nil _ hwaiters
      obtain ⟨hcall, hwaits⟩ := List.mem_filter.1 hc
      exact ⟨c, hcall, beq_iff_eq.1 (Bool.and_eq_true_iff.1 hwaits).1⟩
  · rintro ⟨c, hc, rfl⟩
    cases hheld : c.held with
    | true => exact Or.inl (List.ne_nil_of_mem (List.mem_filter.2 ⟨hc, by simp [hheld]⟩))
    | false => exact Or.inr (List.ne_nil_of_mem (List.mem_filter.2 ⟨hc, by simp [hheld]⟩))

/-- Holders and waiters are the calls for the lock of an owner. -/
theorem length_holders_add_waiters
    (l : OwnerLocks)
    (owner : Owner) :
    (l.holders owner).length + (l.waiters owner).length =
      l.calls.countP fun c => c.owner == owner := by
  rw [List.countP_eq_countP_filter_add _ _ fun c : LockCall => c.held, holders, waiters,
    ← List.countP_eq_length_filter, ← List.countP_eq_length_filter, List.countP_filter,
    List.countP_filter]

/-- The references to a lock are its entry, its holders and its waiters. -/
theorem MapSound.references_eq
    (h : MapSound l)
    {lock : Nat}
    (hentry : (owner, lock) ∈ l.locks) :
    l.references lock = 1 + ((l.holders owner).length + (l.waiters owner).length) := by
  have hcalls : l.calls.countP (fun c => c.lock == lock) =
      l.calls.countP fun c => c.owner == owner := by
    refine List.countP_congr fun c hc => ?_
    rw [beq_iff_eq, beq_iff_eq]
    exact h.lock_iff (h.known c hc) hentry
  rw [references, h.countP_lock hentry, hcalls, length_holders_add_waiters]

/-- The owner of an entry finds its lock. -/
theorem MapSound.lookup_eq
    (h : MapSound l)
    {lock : Nat}
    (hentry : (owner, lock) ∈ l.locks) :
    l.locks.lookup owner = some lock := by
  cases hlookup : l.locks.lookup owner with
  | none => exact absurd (List.lookup_eq_none_iff.1 hlookup _ hentry) (by simp)
  | some found =>
      exact congrArg some ((h.lock_iff (mem_of_lookup hlookup) hentry).2 rfl)

/-- Behind a request the lock of its owner is in use. -/
theorem inUse_request
    (l : OwnerLocks)
    (caller : String)
    (owner : Owner) :
    (l.request caller owner).InUse owner := by
  obtain ⟨lock, hcalls⟩ := l.request_calls caller owner
  exact inUse_iff.2 ⟨_, by rw [hcalls]; exact List.mem_append_right _ List.mem_cons_self, rfl⟩

/-- Owners in the map behind a request were not forgotten, or the request is for them. -/
theorem mem_owners_request
    {caller : String}
    {o : Owner}
    (ho : o ∈ (l.request caller owner).owners) :
    o ∈ l.prune.owners ∨ o = owner := by
  unfold request at ho
  dsimp only at ho
  split at ho
  · exact Or.inl ho
  · rw [owners, List.map_append, List.mem_append] at ho
    exact ho.imp id List.mem_singleton.1

/-- Behind a request the map has exactly the owners whose locks are in use. -/
theorem MapSound.mem_owners_request
    (h : MapSound l)
    (caller : String)
    (owner o : Owner) :
    o ∈ (l.request caller owner).owners ↔ (l.request caller owner).InUse o := by
  constructor
  · intro ho
    rcases OwnerLocks.mem_owners_request ho with hold | rfl
    · obtain ⟨e, he, rfl⟩ := List.mem_map.1 hold
      obtain ⟨hentry, hneeded⟩ := List.mem_filter.1 he
      obtain ⟨c, hc, howner⟩ := (h.needed_iff hentry).1 (of_decide_eq_true hneeded)
      obtain ⟨lock, hcalls⟩ := l.request_calls caller owner
      exact inUse_iff.2 ⟨c, by rw [hcalls]; exact List.mem_append_left _ hc, howner⟩
    · exact inUse_request l caller o
  · intro huse
    obtain ⟨c, hc, rfl⟩ := inUse_iff.1 huse
    exact List.mem_map_of_mem ((h.request caller owner).known c hc)

end OwnerLocks
end LinkLedger
