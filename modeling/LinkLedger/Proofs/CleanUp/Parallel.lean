import LinkLedger.Proofs.CleanUp.Guard
import LinkLedger.Proofs.CleanUp.Pass
import Mathlib.Algebra.GroupWithZero.Nat

/-!
# Passes at the same time are passes one after the other

What a pass has loaded stays true until it removes something, because nobody else removes records
of its owner in between.  So a pass has the effect that it would have if it were made at once, at
the moment when it removes what is stale.

**Results.**
* `Pass.exists_run`: what a pass does to an index.
* `Serial`: the invariant of index and workers; `Serial.remove`: a removal is a pass made at once.
* `Crew.parallel_serializable`: passes at the same time exclude each other by owners, have the
  effect of passes one after the other, and say how many records they have removed.
-/

namespace LinkLedger

variable {locks : OwnerLocks} {front back : List Worker} {w : Worker}

/-! ## The index and workers -/

/-- A pass leaves out records of its owner, and it says how many. -/
theorem Pass.exists_run
    {x : Index}
    (hx : x.WellFormed)
    (s : Service)
    (p : Pass) :
    ∃ (test : LinkRecord → Bool) (report : CleanUpReport),
      (∀ r, test r = true → r.owner = p.owner) ∧
        p.run s Index.access x = (.ok report, x.restrict fun r => !test r) ∧
        (x.restrict fun r => !test r).count + report.deleted = x.count := by
  have hcount : ∀ test : LinkRecord → Bool,
      (x.restrict fun r => !test r).count + (x.records.filter test).length = x.count := by
    intro test
    have hdelete := Index.count_delete x ((x.records.filter test).filterMap (·.id))
    rwa [hx.delete_ids] at hdelete
  cases p with
  | content c =>
      refine ⟨s.removes c, _, fun r hr => ?_, Service.cleanUp_access hx s c, hcount _⟩
      rw [Service.removes, Bool.and_eq_true, beq_iff_eq] at hr
      exact hr.1
  | gone owner =>
      refine ⟨fun r => r.owner == owner, _, fun r hr => beq_iff_eq.1 hr,
        Service.cleanUpGone_access hx owner, ?_⟩
      rw [Service.ownedBy_eq_filter]
      exact hcount _

/-- Records of another owner stay when records of an owner are left out. -/
theorem Index.ownedBy_restrict
    (x : Index)
    {owner other : Owner}
    (hne : owner ≠ other)
    {test : LinkRecord → Bool}
    (htest : ∀ r, test r = true → r.owner = other) :
    (x.restrict fun r => !test r).ownedBy owner none = x.ownedBy owner none := by
  rw [Service.ownedBy_eq_filter, Service.ownedBy_eq_filter, records_restrict, List.filter_filter]
  refine List.filter_congr fun r _ => ?_
  by_cases howner : r.owner = owner
  · have hstays : test r = false := by
      rw [← Bool.not_eq_true]
      exact fun hr => hne (howner.symm.trans (htest r hr))
    rw [hstays, Bool.not_false, Bool.and_true]
  · rw [beq_eq_false_iff_ne.2 howner, Bool.false_and]

/-- The pass of a worker with what it has removed, once it has. -/
def Worker.outcome? (w : Worker) : Option (Pass × CleanUpReport) :=
  w.stage.report?.map fun report => (w.pass, report)

/-- What a worker has loaded is what there is, and the index is what the passes that have removed
something, one after the other, have made of the first one. -/
structure Serial (s : Service) (x index : Index) (workers : List Worker) : Prop where
  wellFormed : index.WellFormed
  loaded : ∀ w ∈ workers, ∀ records, w.stage = .loaded records →
    records = index.ownedBy w.pass.owner none
  ordered : ∃ order : List (Pass × CleanUpReport), order.Perm (workers.filterMap Worker.outcome?) ∧
    (order.map (·.1)).mapM (Pass.run s Index.access) x = (.ok (order.map (·.2)), index)

namespace Serial

variable {s : Service} {x index : Index} {workers : List Worker}

theorem idle
    (hx : x.WellFormed)
    (s : Service) :
    Serial s x x [] :=
  ⟨hx, by simp, [], List.Perm.refl _, rfl⟩

theorem start
    (h : Serial s x index workers)
    (caller : String)
    (pass : Pass) :
    Serial s x index (workers ++ [⟨caller, pass, .waiting⟩]) := by
  obtain ⟨order, hperm, hrun⟩ := h.ordered
  refine ⟨h.wellFormed, ?_, order, ?_, hrun⟩
  · intro w hw records hstage
    rcases List.mem_append.1 hw with hw | hw
    · exact h.loaded w hw records hstage
    · rw [List.mem_singleton.1 hw] at hstage
      cases hstage
  · have hnone : [Worker.mk caller pass .waiting].filterMap Worker.outcome? = [] := rfl
    rw [List.filterMap_append, hnone, List.append_nil]
    exact hperm

/-- A worker may come to another stage without removing anything. -/
theorem put
    (h : Serial s x index (front ++ w :: back))
    {stage : Stage}
    (hreport : stage.report? = w.stage.report?)
    (hloaded : ∀ records, stage = .loaded records → records = index.ownedBy w.pass.owner none) :
    Serial s x index (front ++ { w with stage := stage } :: back) := by
  obtain ⟨order, hperm, hrun⟩ := h.ordered
  refine ⟨h.wellFormed, ?_, order, ?_, hrun⟩
  · intro v hv records hstage
    simp only [List.mem_append, List.mem_cons] at hv
    rcases hv with hv | rfl | hv
    · exact h.loaded v (by simp [hv]) records hstage
    · exact hloaded records hstage
    · exact h.loaded v (by simp [hv]) records hstage
  · simpa [List.filterMap_cons, Worker.outcome?, hreport] using hperm

/--
A worker that removes what is stale among the records loaded makes its pass at this moment; what
the others have loaded stays, because it belongs to other owners.
-/
theorem remove
    (hguarded : Guarded locks (front ++ w :: back))
    (h : Serial s x index (front ++ w :: back))
    {records : List LinkRecord}
    (hstage : w.stage = .loaded records) :
    ∃ report index', w.pass.finish s Index.access records index = (.ok report, index') ∧
      Serial s x index' (front ++ { w with stage := .removed report } :: back) := by
  obtain ⟨test, report, htest, hrun, -⟩ := w.pass.exists_run h.wellFormed s
  have hrecords := h.loaded w (by simp) records hstage
  have hload : w.pass.load Index.access index = (.ok records, index) := by
    rw [hrecords]
    rfl
  have hfinish : w.pass.finish s Index.access records index =
      (.ok report, index.restrict fun r => !test r) := by
    rw [← hrun, Pass.run_eq, Step.bind_of_ok hload]
  obtain ⟨order, hperm, horder⟩ := h.ordered
  refine ⟨report, _, hfinish, h.wellFormed.restrict _, ?_, order ++ [(w.pass, report)], ?_, ?_⟩
  · have hothers : ∀ v ∈ front ++ back, ∀ rs, v.stage = .loaded rs →
        rs = (index.restrict fun r => !test r).ownedBy v.pass.owner none := by
      intro v hv rs hvstage
      have hmem : v ∈ front ++ w :: back := by
        simp only [List.mem_append, List.mem_cons] at hv ⊢
        exact hv.imp_right Or.inr
      have hne : v.pass.owner ≠ w.pass.owner :=
        hguarded.owner_ne hmem (by simp) (hguarded.caller_ne hv) (by rw [hvstage]; rfl)
          (by rw [hstage]; rfl)
      rw [Index.ownedBy_restrict index hne htest]
      exact h.loaded v hmem rs hvstage
    intro v hv rs hvstage
    simp only [List.mem_append, List.mem_cons] at hv
    rcases hv with hv | rfl | hv
    · exact hothers v (by simp [hv]) rs hvstage
    · cases hvstage
    · exact hothers v (by simp [hv]) rs hvstage
  · have hbefore : w.outcome? = none := by
      rw [Worker.outcome?, hstage]
      rfl
    have hbehind : Worker.outcome? { w with stage := .removed report } = some (w.pass, report) :=
      rfl
    rw [List.filterMap_append, List.filterMap_cons_none hbefore, ← List.filterMap_append] at hperm
    rw [List.filterMap_append, List.filterMap_cons_some hbehind]
    refine (List.perm_append_singleton _ _).trans (((hperm.cons _).trans ?_))
    rw [List.filterMap_append]
    exact List.perm_middle.symm
  · rw [List.map_append, List.map_append]
    exact Step.mapM_append_of_ok horder (Step.mapM_cons_of_ok hrun rfl)

/-- What the passes have removed, and what is left, is what there was. -/
theorem count_eq
    (hx : x.WellFormed)
    (h : Serial s x index workers) :
    index.count + ((workers.filterMap Worker.outcome?).map (·.2.deleted)).sum = x.count := by
  obtain ⟨order, hperm, hrun⟩ := h.ordered
  rw [← (hperm.map (·.2.deleted)).sum_nat]
  clear hperm h
  induction order generalizing x with
  | nil =>
      cases hrun
      simp
  | cons first order ih =>
      obtain ⟨test, report, -, hfirst, hcount⟩ := first.1.exists_run hx s
      rw [List.map_cons, List.mapM_cons, Step.bind_of_ok hfirst] at hrun
      obtain ⟨reports, y, hrest, hlast⟩ := Step.bind_eq_ok.1 hrun
      rw [Step.pure_apply, List.map_cons] at hlast
      injection hlast with hreports hindex
      injection hreports with hreports
      injection hreports with hreport hreports
      subst hreport hreports hindex
      have hleft := ih (hx.restrict _) hrest
      rw [List.map_cons, List.sum_cons]
      omega

end Serial
/-! ## Crews -/

namespace Crew

/-- Nobody is inside without the lock, and the index is the work of passes one after the other. -/
structure Sound (s : Service) (x : Index) (crew : Crew) : Prop where
  guarded : Guarded crew.locks crew.workers
  serial : Serial s x crew.index crew.workers

variable {s : Service} {x index : Index}

theorem put_of_split
    (hothers : ∀ v ∈ front ++ back, v.caller ≠ w.caller)
    (locks : OwnerLocks)
    (index : Index)
    (stage : Stage) :
    put ⟨locks, index, front ++ w :: back⟩ { w with stage := stage } =
      ⟨locks, index, front ++ { w with stage := stage } :: back⟩ := by
  have hsame : ∀ vs : List Worker, (∀ v ∈ vs, v.caller ≠ w.caller) →
      vs.map (fun v => if v.caller = w.caller then { w with stage := stage } else v) = vs := by
    intro vs hvs
    refine (List.map_congr_left fun v hv => ?_).trans (List.map_id vs)
    rw [if_neg (hvs v hv), id]
  simp only [put, List.map_append, List.map_cons, if_true]
  rw [hsame front fun v hv => hothers v (List.mem_append_left _ hv),
    hsame back fun v hv => hothers v (List.mem_append_right _ hv)]

/-- A pass that is given up has removed what it has removed. -/
theorem Sound.abandon
    (h : Sound s x ⟨locks, index, front ++ w :: back⟩) :
    Sound s x (abandon ⟨locks, index, front ++ w :: back⟩ w) := by
  unfold Crew.abandon
  split
  · exact h
  · dsimp only
    rw [put_of_split fun v hv => h.guarded.caller_ne hv]
    exact ⟨h.guarded.drop rfl, h.serial.put rfl fun _ hstage => by cases hstage⟩

/-- The next step of a pass keeps the invariant; no call of a pass fails. -/
theorem Sound.advance
    (h : Sound s x ⟨locks, index, front ++ w :: back⟩) :
    Sound s x (advance s ⟨locks, index, front ++ w :: back⟩ w) := by
  have hput := put_of_split fun v hv => h.guarded.caller_ne hv
  have hkeeps : w.stage.isInside = true → locks.holds w.caller = true :=
    h.guarded.inside w (by simp)
  unfold Crew.advance
  cases hstage : w.stage with
  | waiting =>
      dsimp only
      split
      · next hheld =>
        rw [hput]
        exact ⟨h.guarded.put fun _ => hheld,
          h.serial.put (by rw [hstage]; rfl) fun _ hloaded => by cases hloaded⟩
      · exact h
  | holding =>
      have hload : w.pass.load Index.access index =
          (.ok (index.ownedBy w.pass.owner none), index) := rfl
      dsimp only
      rw [hload]
      dsimp only
      rw [hput]
      refine ⟨h.guarded.put fun _ => hkeeps (by rw [hstage]; rfl),
        h.serial.put (by rw [hstage]; rfl) fun records hloaded => ?_⟩
      injection hloaded with hrecords
      exact hrecords.symm
  | loaded records =>
      obtain ⟨report, index', hfinish, hserial⟩ := Serial.remove h.guarded h.serial hstage
      dsimp only
      rw [hfinish]
      dsimp only
      rw [hput]
      exact ⟨h.guarded.put fun _ => hkeeps (by rw [hstage]; rfl), hserial⟩
  | removed report =>
      dsimp only
      rw [hput]
      exact ⟨h.guarded.drop rfl,
        h.serial.put (by rw [hstage]; rfl) fun _ hloaded => by cases hloaded⟩
  | returned report => exact h
  | abandoned report => exact h

/-- Every move keeps the invariant. -/
theorem Sound.after
    {crew : Crew}
    (h : Sound s x crew)
    (move : Move) :
    Sound s x (crew.after s move) := by
  obtain ⟨locks, index, workers⟩ := crew
  have hsplit : ∀ caller w, worker? ⟨locks, index, workers⟩ caller = some w →
      ∃ front back, workers = front ++ w :: back :=
    fun _ _ hfind => List.append_of_mem (List.mem_of_find?_eq_some hfind)
  cases move with
  | start caller pass =>
      simp only [Crew.after]
      split
      · exact h
      · next hnew =>
        have hfresh : ∀ w ∈ workers, w.caller ≠ caller := by simpa [worker?] using hnew
        exact ⟨h.guarded.start hfresh pass, h.serial.start caller pass⟩
  | advance caller =>
      simp only [Crew.after]
      split
      · next w hfind =>
        obtain ⟨front, back, rfl⟩ := hsplit caller w hfind
        exact h.advance
      · exact h
  | abandon caller =>
      simp only [Crew.after]
      split
      · next w hfind =>
        obtain ⟨front, back, rfl⟩ := hsplit caller w hfind
        exact h.abandon
      · exact h

theorem sound_run
    (hx : x.WellFormed)
    (s : Service)
    (moves : List Move) :
    Sound s x (run s x moves) := by
  have hfold : ∀ crew, Sound s x crew → Sound s x (moves.foldl (Crew.after s) crew) := by
    induction moves with
    | nil => exact fun _ h => h
    | cons move moves ih => exact fun crew h => ih _ (h.after move)
  exact hfold _ ⟨guarded_idle, Serial.idle hx s⟩

/-! ## What passes have removed -/

/-- How many records the workers have removed whose passes have come to a stage of some kind. -/
def deleted (crew : Crew) (kind : Stage → Bool) : Nat :=
  (crew.workers.map fun w =>
    if kind w.stage then (w.stage.report?.map (·.deleted)).getD 0 else 0).sum

/-- Whoever has removed records has returned, or has been given up, or is still inside. -/
theorem sum_outcomes
    (crew : Crew) :
    ((crew.workers.filterMap Worker.outcome?).map (·.2.deleted)).sum =
      crew.deleted Stage.isReturned + crew.deleted Stage.isAbandoned +
        crew.deleted Stage.isInside := by
  simp only [deleted]
  induction crew.workers with
  | nil => rfl
  | cons w workers ih =>
      have hstage : (w.stage.report?.map (·.deleted)).getD 0 =
          (if w.stage.isReturned then (w.stage.report?.map (·.deleted)).getD 0 else 0) +
            (if w.stage.isAbandoned then (w.stage.report?.map (·.deleted)).getD 0 else 0) +
              if w.stage.isInside then (w.stage.report?.map (·.deleted)).getD 0 else 0 := by
        cases w.stage <;> simp [Stage.report?, Stage.isReturned, Stage.isAbandoned, Stage.isInside]
      have hcons : (((w :: workers).filterMap Worker.outcome?).map (·.2.deleted)).sum =
          (w.stage.report?.map (·.deleted)).getD 0 +
            ((workers.filterMap Worker.outcome?).map (·.2.deleted)).sum := by
        cases hreport : w.stage.report? <;> simp [Worker.outcome?, hreport]
      rw [hcons, ih, List.map_cons, List.map_cons, List.map_cons, List.sum_cons, List.sum_cons,
        List.sum_cons]
      omega

/--
Passes at the same time, however their steps are mixed and whichever of them are given up: no two
for one owner are inside at once; index and reports are those of the passes that have come to their
removal, made one after the other in some order; and what those have removed that returned, were
given up or are still inside is what is missing from the index.
-/
theorem parallel_serializable
    (hx : x.WellFormed)
    (s : Service)
    (moves : List Move) :
    ((run s x moves).workers.Pairwise fun v w =>
        v.stage.isInside = true → w.stage.isInside = true → v.pass.owner ≠ w.pass.owner) ∧
      (∃ order : List (Pass × CleanUpReport),
        order.Perm ((run s x moves).workers.filterMap Worker.outcome?) ∧
          (order.map (·.1)).mapM (Pass.run s Index.access) x =
            (.ok (order.map (·.2)), (run s x moves).index)) ∧
      (run s x moves).index.count + ((run s x moves).deleted Stage.isReturned +
        (run s x moves).deleted Stage.isAbandoned +
        (run s x moves).deleted Stage.isInside) = x.count := by
  obtain ⟨hguarded, hserial⟩ := sound_run hx s moves
  refine ⟨?_, hserial.ordered, ?_⟩
  · refine (List.pairwise_map.1 hguarded.callers).imp_of_mem fun hv hw hcallers => ?_
    exact hguarded.owner_ne hv hw hcallers
  · rw [← sum_outcomes]
    exact hserial.count_eq hx

-- The second pass waits for the lock until the first is given up, and then finds nothing.
example :
    ((run ⟨.standard, .standard⟩
      (Index.empty.create (.ofOccurrence "a" ⟨"node", "1"⟩ "see" "en")).2
      [.start "first" (.gone ⟨"node", "1"⟩), .start "second" (.gone ⟨"node", "1"⟩),
        .advance "second", .advance "first", .advance "first", .advance "first",
        .advance "second", .abandon "first", .advance "second", .advance "second",
        .advance "second", .advance "second"]).workers.map fun w =>
          (w.outcome?.map (·.2), w.stage.isReturned)) =
      [(some ⟨0, 1⟩, false), (some ⟨0, 0⟩, true)] := by
  decide

/-- Two passes for one owner; the first is given up behind its removal, while the second waits. -/
theorem parallel_serializable_waiting_pass :
    ∃ crew : Crew, ∃ order : List (Pass × CleanUpReport),
      crew = run ⟨.standard, .standard⟩
        (Index.empty.create (.ofOccurrence "a" ⟨"node", "1"⟩ "see" "en")).2
        [.start "first" (.gone ⟨"node", "1"⟩), .start "second" (.gone ⟨"node", "1"⟩),
          .advance "first", .advance "first", .advance "second", .advance "first",
          .abandon "first", .advance "second", .advance "second", .advance "second"] ∧
        order.Perm (crew.workers.filterMap Worker.outcome?) ∧
        crew.index.count + (crew.deleted Stage.isReturned + crew.deleted Stage.isAbandoned +
          crew.deleted Stage.isInside) = 1 := by
  obtain ⟨-, ⟨order, hperm, -⟩, hcount⟩ := parallel_serializable
    (Index.wellFormed_empty.create (.ofOccurrence "a" ⟨"node", "1"⟩ "see" "en"))
    ⟨.standard, .standard⟩
    [.start "first" (.gone ⟨"node", "1"⟩), .start "second" (.gone ⟨"node", "1"⟩),
      .advance "first", .advance "first", .advance "second", .advance "first",
      .abandon "first", .advance "second", .advance "second", .advance "second"]
  exact ⟨_, order, rfl, hperm, hcount⟩

end Crew
end LinkLedger
