import LinkLedger.CleanUp.Locks
import Mathlib.Data.List.Nodup

/-!
# The map of locks

The map has the lock of every owner that a call refers to, and no lock is in it twice.  So two calls
refer to the same lock exactly if they are for the same owner, although locks are forgotten and made
anew all the time.

**Results.**
* `MapSound`: the invariant; `MapSound.apply`, `MapSound.grant`: actions and grants keep it.
* `MapSound.lock_iff`: locks are as good as owners; `MapSound.needed_iff`: none that is needed is
  forgotten.
* `MapSound.grant_calls`: waiting calls are served as if the first call of every owner had the lock.
* `MapSound.active_eq`: the owners that count as active are those of the calls.
-/

namespace LinkLedger
namespace OwnerLocks

/-- Every call refers to the lock of its owner; the map has no owner and no lock twice, and no lock
that is still to come. -/
structure MapSound (l : OwnerLocks) : Prop where
  owners : (l.locks.map (·.1)).Nodup
  locks : (l.locks.map (·.2)).Nodup
  bounded : ∀ e ∈ l.locks, e.2 < l.next
  known : ∀ c ∈ l.calls, (c.owner, c.lock) ∈ l.locks

theorem mapSound_empty :
    MapSound empty :=
  ⟨List.nodup_nil, List.nodup_nil, by simp [empty], by simp [empty]⟩

variable {l : OwnerLocks}

/-- Entries have one lock exactly if they have one owner. -/
theorem MapSound.lock_iff
    (h : MapSound l)
    {d e : Owner × Nat}
    (hd : d ∈ l.locks)
    (he : e ∈ l.locks) :
    d.2 = e.2 ↔ d.1 = e.1 := by
  constructor
  · intro heq
    exact congrArg Prod.fst (List.inj_on_of_nodup_map h.locks hd he heq)
  · intro heq
    exact congrArg Prod.snd (List.inj_on_of_nodup_map h.owners hd he heq)

/-! ## Locks that are forgotten -/

/-- The entry of a lock is the only one. -/
theorem MapSound.countP_lock
    (h : MapSound l)
    {e : Owner × Nat}
    (he : e ∈ l.locks) :
    l.locks.countP (fun d => d.2 == e.2) = 1 := by
  have hcount : (l.locks.map (·.2)).count e.2 = 1 := by
    rw [h.locks.count, if_pos (List.mem_map_of_mem he)]
  rw [List.count, List.countP_map] at hcount
  exact hcount

/-- A lock is needed exactly if there is a call for its owner. -/
theorem MapSound.needed_iff
    (h : MapSound l)
    {e : Owner × Nat}
    (he : e ∈ l.locks) :
    1 < l.references e.2 ↔ ∃ c ∈ l.calls, c.owner = e.1 := by
  rw [references, h.countP_lock he]
  have hcalls : 0 < l.calls.countP (fun c => c.lock == e.2) ↔ ∃ c ∈ l.calls, c.owner = e.1 := by
    rw [List.countP_pos_iff]
    constructor
    · rintro ⟨c, hc, hlock⟩
      exact ⟨c, hc, (h.lock_iff (h.known c hc) he).1 (beq_iff_eq.1 hlock)⟩
    · rintro ⟨c, hc, howner⟩
      exact ⟨c, hc, beq_iff_eq.2 ((h.lock_iff (h.known c hc) he).2 howner)⟩
  rw [← hcalls]
  omega

/-- No lock that a call refers to is forgotten. -/
theorem MapSound.prune
    (h : MapSound l) :
    MapSound l.prune := by
  have hsub : (l.prune.locks).Sublist l.locks := List.filter_sublist
  refine ⟨h.owners.sublist (hsub.map _), h.locks.sublist (hsub.map _),
    fun e he => h.bounded e (hsub.subset he), ?_⟩
  intro c hc
  have hentry := h.known c hc
  exact List.mem_filter.2
    ⟨hentry, decide_eq_true ((h.needed_iff hentry).2 ⟨c, hc, rfl⟩)⟩

/-! ## Actions -/

/-- Calls may go, and what they hold may change. -/
theorem MapSound.of_calls
    (h : MapSound l)
    {calls : List LockCall}
    (hcalls : ∀ c ∈ calls, ∃ d ∈ l.calls, d.owner = c.owner ∧ d.lock = c.lock) :
    MapSound { l with calls := calls } := by
  refine ⟨h.owners, h.locks, h.bounded, fun c hc => ?_⟩
  obtain ⟨d, hd, howner, hlock⟩ := hcalls c hc
  rw [← howner, ← hlock]
  exact h.known d hd

theorem mem_of_lookup
    {locks : List (Owner × Nat)}
    {owner : Owner}
    {lock : Nat}
    (h : locks.lookup owner = some lock) :
    (owner, lock) ∈ locks := by
  obtain ⟨front, back, heq, -⟩ := List.lookup_eq_some_iff.1 h
  rw [heq]
  exact List.mem_append_right _ List.mem_cons_self

/-- Asking adds a call for the lock of the owner, whether there is one or not. -/
theorem request_calls
    (l : OwnerLocks)
    (caller : String)
    (owner : Owner) :
    ∃ lock, (l.request caller owner).calls = l.calls ++ [⟨caller, owner, lock, false⟩] := by
  unfold request
  dsimp only
  split
  · exact ⟨_, rfl⟩
  · exact ⟨_, rfl⟩

theorem MapSound.request
    (h : MapSound l)
    (caller : String)
    (owner : Owner) :
    MapSound (l.request caller owner) := by
  have hprune := h.prune
  unfold OwnerLocks.request
  dsimp only
  split
  · next lock hlookup =>
    refine ⟨hprune.owners, hprune.locks, hprune.bounded, fun c hc => ?_⟩
    rcases List.mem_append.1 hc with hc | hc
    · exact hprune.known c hc
    · rw [List.mem_singleton.1 hc]
      exact mem_of_lookup hlookup
  · next hlookup =>
    have hnew := List.lookup_eq_none_iff.1 hlookup
    refine ⟨?_, ?_, ?_, ?_⟩
    · rw [List.map_append, List.nodup_append]
      refine ⟨hprune.owners, List.pairwise_singleton _ _, ?_⟩
      intro o ho o' ho' heq
      obtain ⟨e, he, rfl⟩ := List.mem_map.1 ho
      rw [List.map_singleton, List.mem_singleton] at ho'
      exact absurd (ho'.symm.trans heq.symm) (bne_iff_ne.1 (hnew e he))
    · rw [List.map_append, List.nodup_append]
      refine ⟨hprune.locks, List.pairwise_singleton _ _, ?_⟩
      intro n hn n' hn'
      obtain ⟨e, he, rfl⟩ := List.mem_map.1 hn
      rw [List.map_singleton, List.mem_singleton] at hn'
      rw [hn']
      exact Nat.ne_of_lt (hprune.bounded e he)
    · intro e he
      rcases List.mem_append.1 he with he | he
      · exact Nat.lt_succ_of_lt (hprune.bounded e he)
      · rw [List.mem_singleton.1 he]
        exact Nat.lt_succ_self _
    · intro c hc
      rcases List.mem_append.1 hc with hc | hc
      · exact List.mem_append_left _ (hprune.known c hc)
      · rw [List.mem_singleton.1 hc]
        exact List.mem_append_right _ (List.mem_singleton.2 rfl)

theorem MapSound.apply
    (h : MapSound l)
    (action : Action) :
    MapSound (l.apply action) := by
  cases action with
  | lock caller owner => exact h.request caller owner
  | release caller => exact h.of_calls fun c hc => ⟨c, (List.mem_filter.1 hc).1, rfl, rfl⟩
  | abandon caller => exact h.of_calls fun c hc => ⟨c, (List.mem_filter.1 hc).1, rfl, rfl⟩

/-! ## Serving the waiting calls -/

/-- Calls of which the first for every owner has the lock; the owners in `seen` have had theirs. -/
def served (seen : List Owner) : List LockCall → List LockCall
  | [] => []
  | c :: cs => { c with held := !seen.contains c.owner } :: served (c.owner :: seen) cs

/-- The owners that have had their lock are those that calls in front hold a lock of. -/
theorem mem_cons_seen
    {before : List LockCall}
    {seen : List Owner}
    (hseen : ∀ o, o ∈ seen ↔ ∃ d ∈ before, d.owner = o ∧ d.held = true)
    (c : LockCall)
    (o : Owner) :
    o ∈ c.owner :: seen ↔
      ∃ d ∈ { c with held := !seen.contains c.owner } :: before, d.owner = o ∧ d.held = true := by
  constructor
  · intro ho
    by_cases hold : o ∈ seen
    · obtain ⟨d, hd, hholds⟩ := (hseen o).1 hold
      exact ⟨d, List.mem_cons_of_mem _ hd, hholds⟩
    · rcases List.mem_cons.1 ho with rfl | ho
      · exact ⟨_, List.mem_cons_self, rfl, by simpa using hold⟩
      · exact absurd ho hold
  · rintro ⟨d, hd, rfl, hholds⟩
    rcases List.mem_cons.1 hd with rfl | hd
    · exact List.mem_cons_self
    · exact List.mem_cons_of_mem _ ((hseen _).2 ⟨d, hd, rfl, hholds⟩)

/--
Waiting calls are served as if the first call for every owner had the lock, if nobody holds a lock
who is not the first.
-/
theorem MapSound.grantFrom_eq
    (h : MapSound l)
    {before rest : List LockCall}
    {seen : List Owner}
    (hknown : ∀ c ∈ before ++ rest, (c.owner, c.lock) ∈ l.locks)
    (hseen : ∀ o, o ∈ seen ↔ ∃ d ∈ before, d.owner = o ∧ d.held = true)
    (hfirst : ∀ c ∈ rest, c.held = true → c.owner ∉ seen)
    (hheld : rest.Pairwise fun a b => b.held = true → a.owner ≠ b.owner) :
    grantFrom before rest = before.reverse ++ served seen rest := by
  -- The look ahead into `rest` never finds a holder: `hheld` excludes one behind the call, so only
  -- the calls in front decide, and `seen` sums them up.
  induction rest generalizing before seen with
  | nil => rw [grantFrom, served, List.append_nil]
  | cons c rest ih =>
      obtain ⟨hc, hrest⟩ := List.pairwise_cons.1 hheld
      have hentry := hknown c (List.mem_append_right _ List.mem_cons_self)
      have hbefore : (before.any fun d => d.lock == c.lock && d.held) = seen.contains c.owner := by
        rw [Bool.eq_iff_iff, List.any_eq_true, List.contains_iff_mem, hseen]
        refine exists_congr fun d => and_congr_right fun hd => ?_
        have hiff := h.lock_iff (hknown d (List.mem_append_left _ hd)) hentry
        rw [Bool.and_eq_true, beq_iff_eq, hiff]
      have hbehind : (rest.any fun d => d.lock == c.lock && d.held) = false := by
        rw [List.any_eq_false]
        intro d hd
        rw [Bool.and_eq_true, beq_iff_eq]
        rintro ⟨hlock, hholds⟩
        have hd' := hknown d (List.mem_append_right _ (List.mem_cons_of_mem _ hd))
        exact hc d hd hholds ((h.lock_iff hd' hentry).1 hlock).symm
      have hmark : (c.held || !(seen.contains c.owner || false)) = !seen.contains c.owner := by
        cases hholds : c.held with
        | false => rw [Bool.false_or, Bool.or_false]
        | true =>
            have hunseen := hfirst c List.mem_cons_self hholds
            rw [Bool.true_or, eq_comm, Bool.not_eq_true', ← Bool.not_eq_true,
              List.contains_iff_mem]
            exact hunseen
      rw [grantFrom, hbefore, hbehind, hmark, served]
      rw [ih ?_ (mem_cons_seen hseen c) ?_ hrest]
      · rw [List.reverse_cons, List.append_assoc, List.singleton_append]
      · intro d hd
        rcases List.mem_append.1 hd with hd | hd
        · rcases List.mem_cons.1 hd with rfl | hd
          · exact hentry
          · exact hknown d (List.mem_append_left _ hd)
        · exact hknown d (List.mem_append_right _ (List.mem_cons_of_mem _ hd))
      · intro d hd hholds hmem
        rcases List.mem_cons.1 hmem with howner | hmem
        · exact hc d hd hholds howner.symm
        · exact hfirst d (List.mem_cons_of_mem _ hd) hholds hmem

theorem MapSound.grant_calls
    (h : MapSound l)
    (hheld : l.calls.Pairwise fun a b => b.held = true → a.owner ≠ b.owner) :
    l.grant.calls = served [] l.calls := by
  have hgrant : grantFrom [] l.calls = [].reverse ++ served [] l.calls :=
    h.grantFrom_eq h.known (by simp) (by simp) hheld
  rw [grant, hgrant]
  rfl

/-- Calls that are served stay calls for their owners' locks. -/
theorem exists_of_mem_served
    {seen : List Owner}
    {cs : List LockCall}
    {c : LockCall}
    (h : c ∈ served seen cs) :
    ∃ d ∈ cs, d.owner = c.owner ∧ d.lock = c.lock := by
  induction cs generalizing seen with
  | nil => cases h
  | cons d cs ih =>
      rcases List.mem_cons.1 h with rfl | h
      · exact ⟨d, List.mem_cons_self, rfl, rfl⟩
      · obtain ⟨e, he, hsame⟩ := ih h
        exact ⟨e, List.mem_cons_of_mem _ he, hsame⟩

theorem MapSound.grant
    (h : MapSound l)
    (hheld : l.calls.Pairwise fun a b => b.held = true → a.owner ≠ b.owner) :
    MapSound l.grant := by
  have hcalls := h.grant_calls hheld
  refine h.of_calls fun c hc => ?_
  change c ∈ l.grant.calls at hc
  rw [hcalls] at hc
  exact exists_of_mem_served hc

/-- The owners that count as active are those of the calls, each once. -/
theorem MapSound.active_eq
    (h : MapSound l)
    {owners : List Owner}
    (hnodup : owners.Nodup)
    (hmem : ∀ o, o ∈ owners ↔ ∃ c ∈ l.calls, c.owner = o) :
    l.active = owners.length := by
  have hactive : l.active =
      ((l.locks.filter fun e => 1 < l.references e.2).map (·.1)).length := by
    rw [active, List.countP_eq_length_filter, List.length_map]
  have hperm : ((l.locks.filter fun e => 1 < l.references e.2).map (·.1)).Perm owners := by
    refine (List.perm_ext_iff_of_nodup ?_ hnodup).2 fun o => ?_
    · exact h.owners.sublist (List.filter_sublist.map _)
    · rw [hmem, List.mem_map]
      constructor
      · rintro ⟨e, he, rfl⟩
        obtain ⟨hentry, hneeded⟩ := List.mem_filter.1 he
        exact (h.needed_iff hentry).1 (of_decide_eq_true hneeded)
      · rintro ⟨c, hc, rfl⟩
        have hentry := h.known c hc
        exact ⟨_, List.mem_filter.2
          ⟨hentry, decide_eq_true ((h.needed_iff hentry).2 ⟨c, hc, rfl⟩)⟩, rfl⟩
  rw [hactive, hperm.length_eq]

end OwnerLocks
end LinkLedger
