import LinkLedger.Proofs.CleanUp.LockMap
import LinkLedger.Proofs.CleanUp.Queues

/-!
# Locks that are forgotten and queues that are not

Owners' locks are made when they are asked for and forgotten when no call refers to them.  Nobody
can tell: whoever gets a lock, whoever waits, and the number of owners that count as active are at
every step what they would be with a queue for every owner that is kept for ever.

**Results.**
* `Agrees`: locks and queues have the same calls in the same order, and the same of them hold
  locks.
* `Agrees.step`: every action keeps the agreement; `Agrees.observe_eq`: and it shows the same.
* `refines_queues`: from the beginning on, locks and queues show the same, and what follows for the
  locks.
-/

namespace LinkLedger

/-- What can be seen of an action: who gets a lock, who waits behind it, and the number of active
owners. -/
structure LockView where
  acquired : List String
  waiting : List String
  active : Nat
  deriving DecidableEq, Repr

namespace OwnerQueues

/-- What can be seen of an action on queues. -/
def observe (q : OwnerQueues) (action : OwnerLocks.Action) : LockView :=
  ⟨q.acquiring action, (q.step action).waiting, (q.step action).active⟩

/-- What can be seen of actions on queues, one after the other. -/
def trace : OwnerQueues → List OwnerLocks.Action → List LockView
  | _, [] => []
  | q, action :: actions => q.observe action :: trace (q.step action) actions

/-- The queues behind actions. -/
def run (actions : List OwnerLocks.Action) : OwnerQueues := actions.foldl step empty

/-- Who stands in a queue, and who has the lock. -/
def line : List Ticket → List (String × Bool)
  | [] => []
  | t :: ts => (t.caller, true) :: ts.map fun u => (u.caller, false)

end OwnerQueues

namespace OwnerLocks

/-- What can be seen of an action on locks. -/
def observe (l : OwnerLocks) (action : Action) : LockView :=
  ⟨(l.apply action).acquiring, (l.step action).waiting, (l.step action).active⟩

/-- What can be seen of actions on locks, one after the other. -/
def trace : OwnerLocks → List Action → List LockView
  | _, [] => []
  | l, action :: actions => l.observe action :: trace (l.step action) actions

/-- The locks behind actions. -/
def run (actions : List Action) : OwnerLocks := actions.foldl step empty

/-- Who has asked for the lock of an owner, in this order, and who has it. -/
def line (l : OwnerLocks) (owner : Owner) : List (String × Bool) :=
  (l.calls.filter fun c => c.owner == owner).map fun c => (c.caller, c.held)

/-- Who joins the line of an owner. -/
def Action.joining (owner : Owner) : Action → List String
  | .lock caller o => if o = owner then [caller] else []
  | .release _ => []
  | .abandon _ => []

/-- Whether an action has to do with an owner: it asks for the lock, or it is by someone who holds
the lock and gives it back, or who waits for it and gives up. -/
def Action.Concerns (l : OwnerLocks) (owner : Owner) : Action → Prop
  | .lock _ o => o = owner
  | .release caller => (caller, true) ∈ l.line owner
  | .abandon caller => (caller, false) ∈ l.line owner

/-- What can be seen of a call. -/
def face (c : LockCall) : String × Owner × Bool := (c.caller, c.owner, c.held)

/-- The same calls in the same order, of which the same hold locks. -/
structure Agrees (l : OwnerLocks) (q : OwnerQueues) (calls : List Ticket) : Prop where
  map : MapSound l
  lined : OwnerQueues.Lined q calls
  faces : l.calls.map face = calls.map fun t => (t.caller, t.owner, q.holds t)

variable {l : OwnerLocks} {q : OwnerQueues} {calls : List Ticket}

theorem agrees_empty :
    Agrees empty .empty [] :=
  ⟨mapSound_empty, OwnerQueues.lined_empty, rfl⟩

/-! ## Actions keep the agreement -/

theorem map_face_filter
    (cs : List LockCall)
    (p : String × Owner × Bool → Bool) :
    (cs.filter fun c => p (face c)).map face = (cs.map face).filter p := by
  rw [List.filter_map]
  rfl

/-- Before waiting calls are served, those have locks who had them before the action. -/
theorem Agrees.apply_faces
    (h : Agrees l q calls)
    (action : Action) :
    (l.apply action).calls.map face =
      (q.callsAfter calls action).map fun t => (t.caller, t.owner, q.holds t) := by
  cases action with
  | lock caller owner =>
      obtain ⟨lock, hcalls⟩ := l.request_calls caller owner
      change (l.request caller owner).calls.map face = _
      rw [hcalls, List.map_append, h.faces, OwnerQueues.callsAfter, List.map_append,
        List.map_singleton, List.map_singleton, h.lined.holds_next]
      rfl
  | release caller =>
      have hfilter := map_face_filter l.calls fun f => !(f.1 == caller && f.2.2)
      rw [h.faces, List.filter_map] at hfilter
      exact hfilter
  | abandon caller =>
      have hfilter := map_face_filter l.calls fun f => !(f.1 == caller && !f.2.2)
      rw [h.faces, List.filter_map] at hfilter
      exact hfilter

/-- Nobody holds a lock behind another call for it. -/
theorem Agrees.pairwise_apply
    (h : Agrees l q calls)
    (action : Action) :
    (l.apply action).calls.Pairwise fun a b => b.held = true → a.owner ≠ b.owner := by
  have hpairwise := h.lined.pairwise_callsAfter action
  have hfaces : ((l.apply action).calls.map face).Pairwise
      fun f g => g.2.2 = true → f.2.1 ≠ g.2.1 := by
    rw [h.apply_faces action, List.pairwise_map]
    exact hpairwise
  exact List.pairwise_map.1 hfaces

/-- Serving the calls gives the locks to the heads of the queues. -/
theorem served_faces
    (hlined : OwnerQueues.Lined q calls)
    {front back : List Ticket}
    {cs : List LockCall}
    {seen : List Owner}
    (hcalls : calls = front ++ back)
    (hback : cs.map (fun c => (c.caller, c.owner)) = back.map fun t => (t.caller, t.owner))
    (hseen : ∀ o, o ∈ seen ↔ ∃ t ∈ front, t.owner = o) :
    (served seen cs).map face = back.map fun t => (t.caller, t.owner, q.holds t) := by
  -- `front` are the calls that have been looked at, and `seen` their owners: a call is the head of
  -- its queue if its owner is not among them.
  induction back generalizing front cs seen with
  | nil =>
      rw [List.map_nil, List.map_eq_nil_iff] at hback
      subst hback
      rfl
  | cons t back ih =>
      obtain ⟨c, cs, rfl, hc, hcs⟩ := List.map_eq_cons_iff.1 hback
      obtain ⟨hcaller, howner⟩ := Prod.mk.inj hc
      have hholds : q.holds t = !seen.contains t.owner := by
        rw [Bool.eq_iff_iff, hlined.holds_iff hcalls, Bool.not_eq_true', ← Bool.not_eq_true,
          List.contains_iff_mem, hseen]
        constructor
        · rintro hnone ⟨u, hu, heq⟩
          exact hnone u hu heq
        · intro hnone u hu heq
          exact hnone ⟨u, hu, heq⟩
      have hseen' : ∀ o, o ∈ c.owner :: seen ↔ ∃ u ∈ front ++ [t], u.owner = o := by
        intro o
        rw [List.mem_cons, hseen, howner]
        constructor
        · rintro (rfl | ⟨u, hu, heq⟩)
          · exact ⟨t, List.mem_append_right _ List.mem_cons_self, rfl⟩
          · exact ⟨u, List.mem_append_left _ hu, heq⟩
        · rintro ⟨u, hu, heq⟩
          rcases List.mem_append.1 hu with hu | hu
          · exact Or.inr ⟨u, hu, heq⟩
          · rw [List.mem_singleton.1 hu] at heq
            exact Or.inl heq.symm
      have hrest := ih (by rw [hcalls, List.append_assoc, List.singleton_append]) hcs hseen'
      rw [served, List.map_cons, List.map_cons, hrest, hholds, face, hcaller, howner]

/-- Every action keeps the agreement. -/
theorem Agrees.step
    (h : Agrees l q calls)
    (action : Action) :
    Agrees (l.step action) (q.step action) (q.callsAfter calls action) := by
  -- Queues change at once, locks in two steps: the action itself, which leaves the old holders, and
  -- the serving of those that wait.
  have hmap := h.map.apply action
  have hheld := h.pairwise_apply action
  refine ⟨hmap.grant hheld, h.lined.step action, ?_⟩
  have hwho : (l.apply action).calls.map (fun c => (c.caller, c.owner)) =
      (q.callsAfter calls action).map fun t => (t.caller, t.owner) := by
    have hfaces := congrArg (List.map fun f => (f.1, f.2.1)) (h.apply_faces action)
    rw [List.map_map, List.map_map] at hfaces
    exact hfaces
  change (l.apply action).grant.calls.map face = _
  rw [hmap.grant_calls hheld]
  exact served_faces (h.lined.step action) (List.nil_append _).symm hwho (by simp)

/-! ## Locks and queues show the same -/

theorem Agrees.waiting_eq
    (h : Agrees l q calls) :
    l.waiting = q.waiting := by
  have hwaiting : l.waiting = ((l.calls.map face).filter fun f => !f.2.2).map (·.1) := by
    rw [← map_face_filter, List.map_map]
    rfl
  rw [hwaiting, h.faces, h.lined.waiting_eq, List.filter_map, List.map_map]
  rfl

theorem Agrees.acquiring_eq
    (h : Agrees l q calls)
    (action : Action) :
    (l.apply action).acquiring = q.acquiring action := by
  have hafter : (l.apply action).grant.calls.map face =
      (q.callsAfter calls action).map fun t => (t.caller, t.owner, (q.step action).holds t) :=
    (h.step action).faces
  have hpairs : ((l.apply action).calls.zip (l.apply action).grant.calls).map
      (Prod.map face face) = (q.callsAfter calls action).map fun t =>
        ((t.caller, t.owner, q.holds t), t.caller, t.owner, (q.step action).holds t) := by
    rw [← List.zip_map, h.apply_faces action, hafter, List.zip_map']
  have hacquiring : (l.apply action).acquiring =
      ((((l.apply action).calls.zip (l.apply action).grant.calls).map (Prod.map face face)).filter
        fun f => !f.1.2.2 && f.2.2.2).map (·.1.1) := by
    rw [List.filter_map, List.map_map]
    rfl
  rw [hacquiring, hpairs, h.lined.acquiring_eq, List.filter_map, List.map_map]
  rfl

theorem Agrees.owners_eq
    (h : Agrees l q calls) :
    l.calls.map (·.owner) = calls.map (·.owner) := by
  have hfaces := congrArg (List.map fun f => f.2.1) h.faces
  rw [List.map_map, List.map_map] at hfaces
  exact hfaces

theorem Agrees.active_eq
    (h : Agrees l q calls) :
    l.active = q.active := by
  rw [OwnerQueues.active, List.countP_eq_length_filter]
  refine h.map.active_eq (h.lined.nodup.filter _) fun o => ?_
  have hcalls : (∃ c ∈ l.calls, c.owner = o) ↔ ∃ t ∈ calls, t.owner = o := by
    rw [← List.mem_map, h.owners_eq, List.mem_map]
  rw [hcalls, List.mem_filter, Bool.not_eq_true', ← Bool.not_eq_true, List.isEmpty_iff]
  constructor
  · rintro ⟨-, hqueue⟩
    obtain ⟨t, ht⟩ := List.exists_mem_of_ne_nil _ hqueue
    exact ⟨t, h.lined.mem_queue.1 ht⟩
  · rintro ⟨t, ht, rfl⟩
    exact ⟨h.lined.owner_mem t ht, List.ne_nil_of_mem (h.lined.mem_queue.2 ⟨ht, rfl⟩)⟩

theorem Agrees.observe_eq
    (h : Agrees l q calls)
    (action : Action) :
    l.observe action = q.observe action := by
  have hafter := h.step action
  rw [observe, OwnerQueues.observe, h.acquiring_eq action, hafter.waiting_eq, hafter.active_eq]

/-- The line of an owner is the queue. -/
theorem Agrees.line_eq
    (h : Agrees l q calls)
    (owner : Owner) :
    l.line owner = OwnerQueues.line (q.queue owner) := by
  have hline : l.line owner =
      ((l.calls.map face).filter fun f => f.2.1 == owner).map fun f => (f.1, f.2.2) := by
    rw [← map_face_filter, List.map_map]
    rfl
  have hqueue : l.line owner = (q.queue owner).map fun t => (t.caller, q.holds t) := by
    rw [hline, h.faces, h.lined.queue_eq, List.filter_map, List.map_map]
    rfl
  rw [hqueue]
  cases hlist : q.queue owner with
  | nil => rfl
  | cons t ts =>
      obtain ⟨hhead, htail⟩ := h.lined.holds_of_queue hlist
      rw [List.map_cons, hhead, OwnerQueues.line]
      congr 1
      exact List.map_congr_left fun u hu => by rw [htail u hu]

theorem Agrees.trace_eq
    (h : Agrees l q calls)
    (actions : List Action) :
    trace l actions = OwnerQueues.trace q actions := by
  induction actions generalizing l q calls with
  | nil => rfl
  | cons action actions ih =>
      rw [trace, OwnerQueues.trace, h.observe_eq action, ih (h.step action)]

/-- The agreement holds behind all actions. -/
theorem Agrees.foldl
    (h : Agrees l q calls)
    (actions : List Action) :
    ∃ calls', Agrees (actions.foldl OwnerLocks.step l) (actions.foldl OwnerQueues.step q)
      calls' := by
  induction actions generalizing l q calls with
  | nil => exact ⟨calls, h⟩
  | cons action actions ih => exact ih (h.step action)

theorem exists_agrees_run
    (actions : List Action) :
    ∃ calls, Agrees (run actions) (.run actions) calls :=
  agrees_empty.foldl actions

/-! ## What follows for the locks -/

/-- The first in a line has the lock, and nobody behind. -/
theorem line_cases
    (ts : List Ticket) :
    OwnerQueues.line ts = [] ∨
      ∃ caller rest, OwnerQueues.line ts = (caller, true) :: rest ∧ ∀ e ∈ rest, e.2 = false := by
  cases ts with
  | nil => exact Or.inl rfl
  | cons t ts =>
      refine Or.inr ⟨t.caller, _, rfl, fun e he => ?_⟩
      obtain ⟨u, -, rfl⟩ := List.mem_map.1 he
      rfl

theorem callers_line
    (ts : List Ticket) :
    (OwnerQueues.line ts).map (·.1) = ts.map (·.caller) := by
  cases ts with
  | nil => rfl
  | cons t ts => simp [OwnerQueues.line]

theorem mem_line
    {l : OwnerLocks}
    {owner : Owner}
    {e : String × Bool} :
    e ∈ l.line owner ↔ ∃ c ∈ l.calls, c.owner = owner ∧ (c.caller, c.held) = e := by
  simp only [line, List.mem_map, List.mem_filter, beq_iff_eq, and_assoc]

/-- Nobody has the lock of an owner at the same time as someone else. -/
theorem Agrees.countP_held
    (h : Agrees l q calls)
    (owner : Owner) :
    l.calls.countP (fun c => c.owner == owner && c.held) ≤ 1 := by
  have hline : l.calls.countP (fun c => c.owner == owner && c.held) =
      (l.line owner).countP fun e => e.2 := by
    rw [line, List.countP_map, List.countP_filter]
    refine List.countP_congr fun c _ => ?_
    rw [Bool.and_comm]
    exact Iff.rfl
  rw [hline, h.line_eq]
  rcases line_cases (q.queue owner) with heq | ⟨caller, rest, heq, hrest⟩
  · rw [heq]
    exact Nat.zero_le 1
  · have hnone : rest.countP (fun e => e.2) = 0 :=
      List.countP_eq_zero.2 fun e he => by rw [hrest e he]; exact Bool.false_ne_true
    exact Nat.le_of_eq (by rw [heq, List.countP_cons_of_pos rfl, hnone])

/-- Nobody waits for a lock that nobody has. -/
theorem Agrees.exists_holder
    (h : Agrees l q calls)
    {c : LockCall}
    (hc : c ∈ l.calls) :
    ∃ d ∈ l.calls, d.owner = c.owner ∧ d.held = true := by
  have hmem : (c.caller, c.held) ∈ l.line c.owner := mem_line.2 ⟨c, hc, rfl, rfl⟩
  rcases line_cases (q.queue c.owner) with heq | ⟨caller, rest, heq, -⟩
  · rw [h.line_eq, heq] at hmem
    cases hmem
  · have hhead : (caller, true) ∈ l.line c.owner := by
      rw [h.line_eq, heq]
      exact List.mem_cons_self
    obtain ⟨d, hd, howner, hface⟩ := mem_line.1 hhead
    exact ⟨d, hd, howner, congrArg Prod.snd hface⟩

/-- A line only loses members, and whoever joins goes to its end. -/
theorem Agrees.line_step
    (h : Agrees l q calls)
    (action : Action)
    (owner : Owner) :
    ∃ kept, kept.Sublist ((l.line owner).map (·.1)) ∧
      ((l.step action).line owner).map (·.1) = kept ++ action.joining owner := by
  rw [h.line_eq, (h.step action).line_eq, callers_line, callers_line]
  cases action with
  | lock caller o =>
      refine ⟨_, List.Sublist.refl _, ?_⟩
      change (if owner = o then _ else _ : List Ticket).map (·.caller) =
        _ ++ if o = owner then _ else _
      by_cases ho : o = owner
      · rw [if_pos ho.symm, if_pos ho, List.map_append]
        rfl
      · rw [if_neg (Ne.symm ho), if_neg ho, List.append_nil]
  | release caller =>
      refine ⟨_, ?_, (List.append_nil _).symm⟩
      change ((OwnerQueues.leave caller (q.queue owner)).map (·.caller)).Sublist _
      rw [h.lined.leave_eq]
      exact List.filter_sublist.map _
  | abandon caller =>
      refine ⟨_, ?_, (List.append_nil _).symm⟩
      change ((OwnerQueues.giveUp caller (q.queue owner)).map (·.caller)).Sublist _
      rw [h.lined.giveUp_eq]
      exact List.filter_sublist.map _

/-- An action changes no line that it has nothing to do with. -/
theorem Agrees.line_step_of_not_concerns
    (h : Agrees l q calls)
    {action : Action}
    {owner : Owner}
    (hother : ¬ action.Concerns l owner) :
    (l.step action).line owner = l.line owner := by
  rw [h.line_eq, (h.step action).line_eq]
  congr 1
  cases action with
  | lock caller o => exact if_neg (Ne.symm hother)
  | release caller =>
      change OwnerQueues.leave caller (q.queue owner) = _
      rw [Action.Concerns, h.line_eq] at hother
      cases hqueue : q.queue owner with
      | nil => rfl
      | cons t ts =>
          rw [hqueue] at hother
          refine if_neg ?_
          rintro rfl
          exact hother List.mem_cons_self
  | abandon caller =>
      change OwnerQueues.giveUp caller (q.queue owner) = _
      rw [Action.Concerns, h.line_eq] at hother
      cases hqueue : q.queue owner with
      | nil => rfl
      | cons t ts =>
          rw [hqueue] at hother
          have hall : (ts.filter fun u => u.caller != caller) = ts := by
            refine List.filter_eq_self.2 fun u hu => bne_iff_ne.2 ?_
            rintro rfl
            exact hother (List.mem_cons_of_mem _ (List.mem_map.2 ⟨u, hu, rfl⟩))
          rw [OwnerQueues.giveUp, hall]

/--
Locks that are forgotten show at every step what queues show that are kept for ever, and the line
for the lock of an owner is the queue of the owner.  So at most one call holds the lock of an owner,
no call waits for a lock that none holds, lines are served from the front and joined at the end, and
an action changes only the lines that it has to do with.
-/
theorem refines_queues
    (actions : List Action) :
    trace empty actions = OwnerQueues.trace .empty actions ∧
      (∀ owner, (run actions).line owner =
        OwnerQueues.line ((OwnerQueues.run actions).queue owner)) ∧
      (∀ owner, (run actions).calls.countP (fun c => c.owner == owner && c.held) ≤ 1) ∧
      (∀ c ∈ (run actions).calls, ∃ d ∈ (run actions).calls,
        d.owner = c.owner ∧ d.held = true) ∧
      (∀ action owner, ∃ kept, kept.Sublist (((run actions).line owner).map (·.1)) ∧
        (((run actions).step action).line owner).map (·.1) = kept ++ action.joining owner) ∧
      ∀ action owner, ¬ action.Concerns (run actions) owner →
        ((run actions).step action).line owner = (run actions).line owner := by
  obtain ⟨calls, h⟩ := exists_agrees_run actions
  refine ⟨agrees_empty.trace_eq actions, h.line_eq, h.countP_held, ?_, h.line_step, ?_⟩
  · exact fun c hc => h.exists_holder hc
  · exact fun action owner hother => h.line_step_of_not_concerns hother

end OwnerLocks
end LinkLedger
