import LinkLedger.CleanUp.Parallel
import LinkLedger.Proofs.CleanUp.LockQueues

/-!
# Workers and the locks that they hold

A lock that is held stays held whatever others do, until its holder goes.  So all workers that are
inside at the same time are so for different owners.

**Results.**
* `OwnerLocks.holds_lock`, `OwnerLocks.holds_drop`: what others do takes no lock away.
* `Guarded`: the invariant of locks and workers; `Guarded.start`, `Guarded.put`, `Guarded.drop`: it
  is kept when passes begin, go on and end.
* `Guarded.owner_ne`: no two workers are inside for one owner.
-/

namespace LinkLedger

/-! ## Locks that are kept -/

namespace OwnerLocks

variable {l : OwnerLocks} {caller other : String}

theorem holds_iff :
    l.holds caller = true ↔ ∃ c ∈ l.calls, c.caller = caller ∧ c.held = true := by
  simp [holds]

/-- Calls that are served are the calls there were. -/
theorem mem_grantFrom
    {before rest : List LockCall}
    {d : LockCall}
    (hd : d ∈ grantFrom before rest) :
    ∃ c ∈ before ++ rest, c.caller = d.caller ∧ c.owner = d.owner := by
  induction rest generalizing before with
  | nil => exact ⟨d, by simpa [grantFrom] using hd, rfl, rfl⟩
  | cons c rest ih =>
      obtain ⟨c', hc', hsame⟩ := ih hd
      simp only [List.cons_append, List.mem_cons, List.mem_append] at hc'
      rcases hc' with rfl | hc' | hc'
      · exact ⟨c, by simp, hsame⟩
      · exact ⟨c', by simp [hc'], hsame⟩
      · exact ⟨c', by simp [hc'], hsame⟩

/-- A lock that is held stays held when the waiting calls are served. -/
theorem grantFrom_keeps
    {before rest : List LockCall}
    {c : LockCall}
    (hc : c ∈ before ++ rest)
    (hheld : c.held = true) :
    c ∈ grantFrom before rest := by
  induction rest generalizing before with
  | nil => simpa [grantFrom] using hc
  | cons c' rest ih =>
      refine ih ?_
      simp only [List.mem_append, List.mem_cons] at hc
      rcases hc with hc | rfl | hc
      · simp [hc]
      · rw [hheld, Bool.true_or, ← hheld]
        simp
      · simp [hc]

theorem holds_grant
    (h : l.holds caller = true) :
    l.grant.holds caller = true := by
  rw [holds_iff] at h ⊢
  obtain ⟨c, hc, hcaller, hheld⟩ := h
  exact ⟨c, grantFrom_keeps hc hheld, hcaller, hheld⟩

/-- Calls behind an action are those there were, and the one that is made. -/
theorem mem_step
    {action : Action}
    {d : LockCall}
    (hd : d ∈ (l.step action).calls) :
    (∃ c ∈ l.calls, c.caller = d.caller ∧ c.owner = d.owner) ∨
      action = .lock d.caller d.owner := by
  obtain ⟨c, hc, hcaller, howner⟩ := mem_grantFrom hd
  rw [List.nil_append] at hc
  cases action with
  | lock caller owner =>
      obtain ⟨lock, hcalls⟩ := request_calls l caller owner
      rw [apply, hcalls, List.mem_append, List.mem_singleton] at hc
      rcases hc with hc | rfl
      · exact Or.inl ⟨c, hc, hcaller, howner⟩
      · exact Or.inr (by rw [← hcaller, ← howner])
  | release caller => exact Or.inl ⟨c, (List.mem_filter.1 hc).1, hcaller, howner⟩
  | abandon caller => exact Or.inl ⟨c, (List.mem_filter.1 hc).1, hcaller, howner⟩

/-- Whoever has a lock keeps it when someone else asks for one. -/
theorem holds_lock
    (h : l.holds caller = true)
    (owner : Owner) :
    (l.step (.lock other owner)).holds caller = true := by
  refine holds_grant ?_
  obtain ⟨c, hc, hheld⟩ := holds_iff.1 h
  obtain ⟨lock, hcalls⟩ := request_calls l other owner
  exact holds_iff.2 ⟨c, by rw [apply, hcalls]; simp [hc], hheld⟩

/-- Whoever has a lock keeps it when someone else goes. -/
theorem holds_drop
    (h : l.holds caller = true)
    (hother : caller ≠ other) :
    (l.drop other).holds caller = true := by
  obtain ⟨c, hc, rfl, hheld⟩ := holds_iff.1 h
  refine holds_grant (holds_iff.2 ⟨c, ?_, rfl, hheld⟩)
  split
  · exact List.mem_filter.2 ⟨hc, by simp [hother]⟩
  · exact List.mem_filter.2 ⟨hc, by simp [hother]⟩

theorem mem_drop
    {d : LockCall}
    (hd : d ∈ (l.drop caller).calls) :
    ∃ c ∈ l.calls, c.caller = d.caller ∧ c.owner = d.owner := by
  rcases mem_step hd with h | h
  · exact h
  · split at h <;> cases h

/-- The lock of an owner is held by one call at most. -/
theorem Agrees.eq_of_held
    {q : OwnerQueues}
    {calls : List Ticket}
    (h : Agrees l q calls)
    {c d : LockCall}
    (hc : c ∈ l.calls)
    (hd : d ∈ l.calls)
    (howner : c.owner = d.owner)
    (hcheld : c.held = true)
    (hdheld : d.held = true) :
    c = d := by
  have hcount := h.countP_held d.owner
  have hc' : c ∈ l.calls.filter fun e => e.owner == d.owner && e.held :=
    List.mem_filter.2 ⟨hc, by simp [howner, hcheld]⟩
  have hd' : d ∈ l.calls.filter fun e => e.owner == d.owner && e.held :=
    List.mem_filter.2 ⟨hd, by simp [hdheld]⟩
  rw [List.countP_eq_length_filter] at hcount
  rcases hheld : l.calls.filter fun e => e.owner == d.owner && e.held with _ | ⟨e, _ | ⟨e', es⟩⟩
  · rw [hheld] at hc'
    cases hc'
  · rw [hheld, List.mem_singleton] at hc' hd'
    exact hc'.trans hd'.symm
  · simp [hheld] at hcount

end OwnerLocks

/-! ## Locks and workers -/

/-- Every call is made by one of the workers, for the owner of the pass; nobody is inside without
the lock. -/
structure Guarded (locks : OwnerLocks) (workers : List Worker) : Prop where
  agrees : ∃ q calls, OwnerLocks.Agrees locks q calls
  callers : (workers.map (·.caller)).Nodup
  known : ∀ c ∈ locks.calls,
    (c.caller, c.owner) ∈ workers.map fun w => (w.caller, w.pass.owner)
  inside : ∀ w ∈ workers, w.stage.isInside = true → locks.holds w.caller = true

theorem guarded_idle :
    Guarded .empty [] :=
  ⟨⟨_, _, OwnerLocks.agrees_empty⟩, List.nodup_nil, by simp [OwnerLocks.empty], by simp⟩

variable {locks : OwnerLocks} {front back : List Worker} {v w : Worker}

namespace Guarded

variable {workers : List Worker}

theorem eq_of_caller
    (h : Guarded locks workers)
    (hv : v ∈ workers)
    (hw : w ∈ workers)
    (hcaller : v.caller = w.caller) :
    v = w :=
  List.inj_on_of_nodup_map h.callers hv hw hcaller

/-- Nobody else goes by the name of a worker. -/
theorem caller_ne
    (h : Guarded locks (front ++ w :: back))
    (hv : v ∈ front ++ back) :
    v.caller ≠ w.caller := by
  have hcallers := h.callers
  rw [List.map_append, List.map_cons, List.nodup_middle, ← List.map_append,
    List.nodup_cons] at hcallers
  exact fun hcaller => hcallers.1 (hcaller ▸ List.mem_map_of_mem hv)

/-- A worker that is inside has the lock of the owner of its pass. -/
theorem exists_call
    (h : Guarded locks workers)
    (hw : w ∈ workers)
    (hinside : w.stage.isInside = true) :
    ∃ c ∈ locks.calls, c.caller = w.caller ∧ c.owner = w.pass.owner ∧ c.held = true := by
  obtain ⟨c, hc, hcaller, hheld⟩ := OwnerLocks.holds_iff.1 (h.inside w hw hinside)
  obtain ⟨v, hv, hface⟩ := List.mem_map.1 (h.known c hc)
  injection hface with hvcaller howner
  rw [h.eq_of_caller hv hw (hvcaller.trans hcaller)] at howner
  exact ⟨c, hc, hcaller, howner.symm, hheld⟩

/-- Workers that are inside at the same time are so for different owners. -/
theorem owner_ne
    (h : Guarded locks workers)
    (hv : v ∈ workers)
    (hw : w ∈ workers)
    (hcaller : v.caller ≠ w.caller)
    (hvinside : v.stage.isInside = true)
    (hwinside : w.stage.isInside = true) :
    v.pass.owner ≠ w.pass.owner := by
  intro howner
  obtain ⟨q, calls, hagrees⟩ := h.agrees
  obtain ⟨c, hc, hccaller, hcowner, hcheld⟩ := h.exists_call hv hvinside
  obtain ⟨d, hd, hdcaller, hdowner, hdheld⟩ := h.exists_call hw hwinside
  have hone := hagrees.eq_of_held hc hd (hcowner.trans (howner.trans hdowner.symm)) hcheld hdheld
  exact hcaller (hccaller.symm.trans (hone ▸ hdcaller))

theorem start
    (h : Guarded locks workers)
    {caller : String}
    (hnew : ∀ w ∈ workers, w.caller ≠ caller)
    (pass : Pass) :
    Guarded (locks.step (.lock caller pass.owner)) (workers ++ [⟨caller, pass, .waiting⟩]) := by
  obtain ⟨q, calls, hagrees⟩ := h.agrees
  refine ⟨⟨_, _, hagrees.step _⟩, ?_, ?_, ?_⟩
  · rw [List.map_append, List.nodup_append]
    refine ⟨h.callers, List.nodup_singleton _, ?_⟩
    rintro _ hcaller _ hmem rfl
    obtain ⟨w, hw, rfl⟩ := List.mem_map.1 hcaller
    exact hnew w hw (by simpa using hmem)
  · intro d hd
    rcases OwnerLocks.mem_step hd with ⟨c, hc, hcaller, howner⟩ | hlock
    · rw [List.map_append, ← hcaller, ← howner]
      exact List.mem_append_left _ (h.known c hc)
    · injection hlock with hcaller howner
      simp [hcaller, howner]
  · intro w hw hinside
    rcases List.mem_append.1 hw with hw | hw
    · exact OwnerLocks.holds_lock (h.inside w hw hinside) _
    · rw [List.mem_singleton.1 hw] at hinside
      cases hinside

/-- A worker may come to another stage, and go inside with the lock. -/
theorem put
    (h : Guarded locks (front ++ w :: back))
    {stage : Stage}
    (hstage : stage.isInside = true → locks.holds w.caller = true) :
    Guarded locks (front ++ { w with stage := stage } :: back) := by
  refine ⟨h.agrees, by simpa using h.callers, by simpa using h.known, ?_⟩
  · intro v hv hinside
    simp only [List.mem_append, List.mem_cons] at hv
    rcases hv with hv | rfl | hv
    · exact h.inside v (by simp [hv]) hinside
    · exact hstage hinside
    · exact h.inside v (by simp [hv]) hinside

/-- A worker that goes leaves the locks of the others as they are. -/
theorem drop
    (h : Guarded locks (front ++ w :: back))
    {stage : Stage}
    (hstage : stage.isInside = false) :
    Guarded (locks.drop w.caller) (front ++ { w with stage := stage } :: back) := by
  obtain ⟨q, calls, hagrees⟩ := h.agrees
  refine ⟨⟨_, _, hagrees.step _⟩, by simpa using h.callers, ?_, ?_⟩
  · intro d hd
    obtain ⟨c, hc, hcaller, howner⟩ := OwnerLocks.mem_drop hd
    have hknown := h.known c hc
    rw [hcaller, howner] at hknown
    simpa using hknown
  · intro v hv hinside
    simp only [List.mem_append, List.mem_cons] at hv
    rcases hv with hv | rfl | hv
    · exact OwnerLocks.holds_drop (h.inside v (by simp [hv]) hinside) (h.caller_ne (by simp [hv]))
    · rw [hstage] at hinside
      cases hinside
    · exact OwnerLocks.holds_drop (h.inside v (by simp [hv]) hinside) (h.caller_ne (by simp [hv]))

end Guarded

end LinkLedger
