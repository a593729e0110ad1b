import LinkLedger.Proofs.CleanUp.Polling
import Mathlib.Data.List.Dedup
import Mathlib.Data.List.Induction

/-!
# Counts that are kept

The count of a lock only goes up and down as references come and go, yet it is at all times the
number of references there are.  So the locks that are forgotten because of their counts are those
that no call refers to: none that is held or waited for is lost, and none that is not stays behind
the next request.

**Results.**
* `Exact`: every count is the number of references; `Exact.prune`, `Exact.insert`, `Exact.join`,
  `Exact.leave`: it stays so when references come and go.
* `Sound.after_toOwnerLocks`, `Sound.after`: locks with counts go through events as locks do whose
  references are counted anew.
* `Sound.active_eq`: the owners that count as active are those with a holder or a waiter.
* `exists_inUse_owners`: the map never has more than the owners whose locks were in use at one
  moment.
* `lockMap_exact`: what the map has of owners in use, and that it has no others behind a request.
-/

namespace LinkLedger
namespace CountedLocks

variable {s : CountedLocks}

/-! ## References that come and go -/

/-- Every count is the number of references to the lock. -/
def Exact (s : CountedLocks) : Prop := ∀ n, s.count n = s.references n

theorem Exact.prune_toOwnerLocks
    (h : Exact s) :
    s.prune.toOwnerLocks = s.toOwnerLocks.prune := by
  simp only [prune, OwnerLocks.prune, h _]

theorem Exact.prune
    (h : Exact s) :
    Exact s.prune := by
  intro n
  have hsplit := List.countP_eq_countP_filter_add s.locks (fun e => e.2 == n)
    fun e => 1 < s.count e.2
  have hcount := h n
  simp only [OwnerLocks.references] at hcount
  simp only [CountedLocks.prune, OwnerLocks.references]
  omega

/-- Nothing refers to a lock that is still to come. -/
theorem references_next
    {l : OwnerLocks}
    (h : l.MapSound) :
    l.references l.next = 0 := by
  rw [OwnerLocks.references, Nat.add_eq_zero_iff, List.countP_eq_zero, List.countP_eq_zero]
  constructor
  · intro e he hnext
    exact Nat.ne_of_lt (h.bounded e he) (beq_iff_eq.1 hnext)
  · intro c hc hnext
    exact Nat.ne_of_lt (h.bounded _ (h.known c hc)) (beq_iff_eq.1 hnext)

theorem Exact.insert
    (h : Exact s)
    (hmap : s.toOwnerLocks.MapSound)
    (owner : Owner) :
    Exact (s.insert owner) := by
  intro n
  have hcount := h n
  have hnext := references_next hmap
  simp only [OwnerLocks.references] at hcount hnext
  simp only [CountedLocks.insert, OwnerLocks.references, List.countP_append, List.countP_singleton,
    beq_iff_eq]
  by_cases hn : n = s.next
  · subst hn
    rw [if_pos rfl, if_pos rfl]
    omega
  · rw [if_neg hn, if_neg (Ne.symm hn)]
    omega

theorem Exact.join
    (h : Exact s)
    (c : LockCall) :
    Exact (s.join c) := by
  intro n
  have hcount := h n
  simp only [OwnerLocks.references] at hcount
  simp only [CountedLocks.join, OwnerLocks.references, List.countP_append, List.countP_singleton,
    beq_iff_eq]
  by_cases hn : n = c.lock
  · rw [if_pos hn, if_pos hn.symm]
    omega
  · rw [if_neg hn, if_neg (Ne.symm hn)]
    omega

theorem Exact.leave
    (h : Exact s)
    (leaves : LockCall → Bool) :
    Exact (s.leave leaves) := by
  intro n
  have hsplit := List.countP_eq_countP_filter_add s.calls (fun c => c.lock == n) leaves
  have hcount := h n
  simp only [OwnerLocks.references] at hcount
  simp only [CountedLocks.leave, OwnerLocks.references]
  omega

/-! ## Events -/

/-- The locks are fair, and the counts are the numbers of references. -/
structure Sound (s : CountedLocks) : Prop where
  fair : s.toOwnerLocks.Fair
  exact : Exact s

theorem sound_empty :
    Sound empty :=
  ⟨OwnerLocks.fair_empty, fun _ => rfl⟩

/-- A request finds or makes the same lock whether references are counted or counts are kept. -/
theorem Sound.request_toOwnerLocks
    (h : Sound s)
    (caller : String)
    (owner : Owner) :
    (s.request caller owner).toOwnerLocks = s.toOwnerLocks.request caller owner := by
  have hprune := h.exact.prune_toOwnerLocks
  unfold request OwnerLocks.request
  rw [← hprune]
  dsimp only
  cases s.prune.locks.lookup owner with
  | some lock => rfl
  | none => rfl

theorem Sound.exact_request
    (h : Sound s)
    (caller : String)
    (owner : Owner) :
    Exact (s.request caller owner) := by
  unfold request
  dsimp only
  cases s.prune.locks.lookup owner with
  | some lock => exact h.exact.prune.join _
  | none =>
      have hmap : s.prune.toOwnerLocks.MapSound := by
        rw [h.exact.prune_toOwnerLocks]
        exact h.fair.map.prune
      exact (h.exact.prune.insert hmap owner).join _

/-- Locks with counts go through events as locks do whose references are counted anew. -/
theorem Sound.after_toOwnerLocks
    (h : Sound s)
    (event : OwnerLocks.Event) :
    (s.after event).toOwnerLocks = s.toOwnerLocks.after event := by
  cases event with
  | action action =>
      cases action with
      | lock caller owner => exact h.request_toOwnerLocks caller owner
      | release caller => rfl
      | abandon caller => rfl
  | poll place => rfl
  | active => rfl

/-- Polling a call changes no number of references. -/
theorem references_poll
    (l : OwnerLocks)
    (place n : Nat) :
    (l.poll place).references n = l.references n := by
  have hlocks : (l.poll place).calls.map (·.lock) = l.calls.map (·.lock) :=
    l.map_calls_poll place fun _ => rfl
  have hcalls := congrArg (List.countP (· == n)) hlocks
  rw [List.countP_map, List.countP_map] at hcalls
  rw [OwnerLocks.references, OwnerLocks.references, l.locks_poll]
  exact congrArg _ hcalls

/-- Every event keeps the counts. -/
theorem Sound.after
    (h : Sound s)
    (event : OwnerLocks.Event) :
    Sound (s.after event) := by
  refine ⟨h.after_toOwnerLocks event ▸ h.fair.after event, ?_⟩
  cases event with
  | action action =>
      cases action with
      | lock caller owner => exact h.exact_request caller owner
      | release caller => exact h.exact.leave _
      | abandon caller => exact h.exact.leave _
  | poll place => exact fun n => (h.exact n).trans (references_poll _ place n).symm
  | active => exact h.exact

theorem Sound.foldl_after
    (h : Sound s)
    (events : List OwnerLocks.Event) :
    Sound (events.foldl CountedLocks.after s) ∧
      (events.foldl CountedLocks.after s).toOwnerLocks =
        events.foldl OwnerLocks.after s.toOwnerLocks := by
  induction events generalizing s with
  | nil => exact ⟨h, rfl⟩
  | cons event events ih =>
      obtain ⟨hsound, heq⟩ := ih (h.after event)
      exact ⟨hsound, by rw [List.foldl_cons, List.foldl_cons, heq, h.after_toOwnerLocks]⟩

theorem sound_run
    (events : List OwnerLocks.Event) :
    Sound (run events) :=
  (sound_empty.foldl_after events).1

theorem run_append
    (front back : List OwnerLocks.Event) :
    run (front ++ back) = back.foldl after (run front) :=
  List.foldl_append

/-! ## Which owners the map has -/

/-- Polling calls changes neither the owners in the map nor whose locks are in use. -/
theorem foldl_poll
    (s : CountedLocks)
    (places : List Nat) :
    ((places.map .poll).foldl after s).owners = s.owners ∧
      ∀ o, ((places.map .poll).foldl after s).InUse o ↔ s.InUse o := by
  induction places generalizing s with
  | nil => exact ⟨rfl, fun _ => Iff.rfl⟩
  | cons place places ih =>
      obtain ⟨howners, huse⟩ := ih (s.after (.poll place))
      have hlocks : (s.after (.poll place)).locks = s.locks := s.toOwnerLocks.locks_poll place
      have hcalls : (s.after (.poll place)).calls.map (·.owner) = s.calls.map (·.owner) :=
        s.toOwnerLocks.map_calls_poll place fun _ => rfl
      refine ⟨howners.trans ?_, fun o => (huse o).trans ?_⟩
      · rw [OwnerLocks.owners, OwnerLocks.owners, hlocks]
      · rw [OwnerLocks.inUse_iff, OwnerLocks.inUse_iff, ← List.mem_map, ← List.mem_map, hcalls]

/-- Behind a request the map has exactly the owners whose locks are in use. -/
theorem Sound.mem_owners_lock
    (h : Sound s)
    (caller : String)
    (owner o : Owner) :
    o ∈ (s.after (.action (.lock caller owner))).owners ↔
      (s.after (.action (.lock caller owner))).InUse o := by
  rw [h.after_toOwnerLocks]
  exact h.fair.map.mem_owners_request caller owner o

/-- Only requests change the map. -/
theorem locks_after
    {event : OwnerLocks.Event}
    (hevent : ∀ caller owner, event ≠ .action (.lock caller owner)) :
    (s.after event).locks = s.locks := by
  cases event with
  | action action =>
      cases action with
      | lock caller owner => exact absurd rfl (hevent caller owner)
      | release caller => rfl
      | abandon caller => rfl
  | poll place => exact s.toOwnerLocks.locks_poll place
  | active => rfl

/-- At all times the map has exactly the owners whose locks were in use at one moment before. -/
theorem exists_inUse_owners
    (events : List OwnerLocks.Event) :
    ∃ front, front <+: events ∧ ∀ o, o ∈ (run events).owners ↔ (run front).InUse o := by
  induction events using List.reverseRecOn with
  | nil =>
      refine ⟨[], List.prefix_rfl, fun o => ?_⟩
      rw [OwnerLocks.inUse_iff]
      simp [run, empty, OwnerLocks.empty, OwnerLocks.owners]
  | append_singleton events event ih =>
      by_cases hlock : ∃ caller owner, event = .action (.lock caller owner)
      · obtain ⟨caller, owner, rfl⟩ := hlock
        refine ⟨_, List.prefix_rfl, fun o => ?_⟩
        rw [run_append]
        exact (sound_run events).mem_owners_lock caller owner o
      · obtain ⟨front, hfront, hiff⟩ := ih
        have hlocks : (run (events ++ [event])).locks = (run events).locks := by
          rw [run_append]
          exact locks_after fun caller owner heq => hlock ⟨caller, owner, heq⟩
        refine ⟨front, hfront.trans (List.prefix_append _ _), fun o => ?_⟩
        rw [← hiff, OwnerLocks.owners, OwnerLocks.owners, hlocks]

/-! ## What is in use is kept, and nothing else -/

/-- The owners that count as active are those of the calls, also while the map has others. -/
theorem Sound.active_eq
    (h : Sound s) :
    s.active = (s.calls.map (·.owner)).dedup.length := by
  have hactive : s.active = s.toOwnerLocks.active := by
    simp only [active, OwnerLocks.active, h.exact _]
  rw [hactive]
  refine h.fair.map.active_eq (List.nodup_dedup _) fun o => ?_
  rw [List.mem_dedup, List.mem_map]

/-- A lock that is in use is in the map: it is the one that all calls for its owner refer to and no
others, at most one of them holds it, and its count is one more than they are. -/
theorem Sound.exists_lock
    (h : Sound s)
    {owner : Owner}
    (huse : s.InUse owner) :
    ∃ lock, s.locks.lookup owner = some lock ∧
      (∀ c ∈ s.calls, c.lock = lock ↔ c.owner = owner) ∧
      (s.holders owner).length ≤ 1 ∧
      s.count lock = 1 + ((s.holders owner).length + (s.waiters owner).length) := by
  obtain ⟨d, hd, rfl⟩ := OwnerLocks.inUse_iff.1 huse
  have hentry := h.fair.map.known d hd
  refine ⟨d.lock, h.fair.map.lookup_eq hentry, fun c hc => h.fair.map.lock_eq_iff hc hd,
    h.fair.length_holders_le _, ?_⟩
  rw [h.exact d.lock, h.fair.map.references_eq hentry]

/--
Locks with counts have at all times the entries and the calls that locks have whose references are
counted anew.  Whatever is asked for, given back, given up and polled, in any order: the map has no
owner twice; the lock of an owner with a holder or a waiter is in the map, its holder and its
waiters refer to that lock and no others do, and its count is one more than they are; behind a
request, and however calls are polled behind it, the map has exactly the owners with a holder or a
waiter; and at all times it has exactly those that had one at one moment before.  Actions behind
which all waiting calls are served are among these events.
-/
theorem lockMap_exact
    (events : List OwnerLocks.Event) :
    (run events).toOwnerLocks = events.foldl OwnerLocks.after .empty ∧
      (run events).owners.Nodup ∧
      (∀ owner, (run events).InUse owner →
        ∃ lock, (run events).locks.lookup owner = some lock ∧
          (∀ c ∈ (run events).calls, c.lock = lock ↔ c.owner = owner) ∧
          ((run events).holders owner).length ≤ 1 ∧
          (run events).count lock =
            1 + (((run events).holders owner).length + ((run events).waiters owner).length)) ∧
      (∀ caller owner places,
        (run (events ++ OwnerLocks.asking caller owner places)).InUse owner ∧
          ∀ o, o ∈ (run (events ++ OwnerLocks.asking caller owner places)).owners ↔
            (run (events ++ OwnerLocks.asking caller owner places)).InUse o) ∧
      (∃ front, front <+: events ∧ ∀ o, o ∈ (run events).owners ↔ (run front).InUse o) ∧
      ∀ actions : List OwnerLocks.Action, ∃ more,
        (run (events ++ more)).toOwnerLocks =
          actions.foldl OwnerLocks.step (run events).toOwnerLocks := by
  have hsound := sound_run events
  refine ⟨(sound_empty.foldl_after events).2, hsound.fair.map.owners,
    fun owner huse => hsound.exists_lock huse, ?_, exists_inUse_owners events, ?_⟩
  · intro caller owner places
    obtain ⟨howners, huse⟩ := foldl_poll ((run events).after (.action (.lock caller owner))) places
    rw [run_append, OwnerLocks.asking, List.foldl_cons, howners]
    refine ⟨(huse owner).2 ?_, fun o => ?_⟩
    · rw [hsound.after_toOwnerLocks]
      exact OwnerLocks.inUse_request _ caller owner
    · rw [huse]
      exact hsound.mem_owners_lock caller owner o
  · intro actions
    obtain ⟨more, hmore⟩ := hsound.fair.exists_foldl_step actions
    refine ⟨more, ?_⟩
    rw [run_append, (hsound.foldl_after more).2, hmore]

/-- A lock is given back, and before the call that waits for it is polled, another request makes
the locks be forgotten that nobody needs. -/
theorem lockMap_exact_behind_release :
    ∃ s lock,
      s = run [.action (.lock "a" ⟨"node", "1"⟩), .poll 0, .action (.lock "b" ⟨"node", "1"⟩),
        .action (.lock "c" ⟨"node", "2"⟩), .poll 2, .action (.release "a"),
        .action (.release "c"), .action (.lock "d" ⟨"node", "3"⟩)] ∧
        s.InUse ⟨"node", "1"⟩ ∧ s.locks.lookup ⟨"node", "1"⟩ = some lock ∧ s.count lock = 2 ∧
        ⟨"node", "2"⟩ ∉ s.owners := by
  have huse : (run [.action (.lock "a" ⟨"node", "1"⟩), .poll 0, .action (.lock "b" ⟨"node", "1"⟩),
      .action (.lock "c" ⟨"node", "2"⟩), .poll 2, .action (.release "a"),
      .action (.release "c"), .action (.lock "d" ⟨"node", "3"⟩)]).InUse ⟨"node", "1"⟩ :=
    Or.inr (by decide)
  obtain ⟨lock, hlookup, -, -, hcount⟩ := (lockMap_exact _).2.2.1 _ huse
  exact ⟨_, lock, rfl, huse, hlookup, hcount, by decide⟩

end CountedLocks
end LinkLedger
