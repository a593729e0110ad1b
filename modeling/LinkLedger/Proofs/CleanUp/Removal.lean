import LinkLedger.CleanUp.Removal
import LinkLedger.Proofs.Index.Faults
import LinkLedger.Proofs.Index.WellFormed

/-!
# Removing all records, behind faults

A page of a removal either fails and changes nothing, or it removes records, or it starts a new
sweep behind the last record, or it finds that no record is left.  A run is made of such pages and
is over after finitely many: every page that is not the last one takes away a record or the cursor.

**Results.**
* `turn_next`: all that the next page can do.
* `Kept`: what every page and every run keep; `Turn.kept`, `Ended.kept`.
* `ended_runFor`: all that a run can come to.
-/

namespace LinkLedger
namespace Removal

/-! ## One page -/

/-- All that the next page of a job that is not finished can do. -/
inductive Turn (job : Removal) (st : Fallible) :
    (Except Failure PageOutcome × Removal) × Fallible → Prop where
  | failed
      (failure : Failure)
      (faults : List ArmedFault)
      (hfaults : st.faults = [] → faults = [])
      (hcause : st.faults ≠ [] ∨ job.pageSize = 0) :
      Turn job st ((.error failure, job), { st with faults := faults })
  | finished
      (faults : List ArmedFault)
      (hfaults : st.faults = [] → faults = [])
      (hempty : st.index.count = 0) :
      Turn job st
        ((.ok .finished, { job with progress := { job.progress with finished := true } }),
          { st with faults := faults })
  | swept
      (faults : List ArmedFault)
      (hfaults : st.faults = [] → faults = [])
      (id : Nat)
      (hcursor : job.progress.cursor = some id) :
      Turn job st
        ((.ok (.deleted 0), { job with progress := { job.progress with cursor := none } }),
          { st with faults := faults })
  | removed
      (faults : List ArmedFault)
      (hfaults : st.faults = [] → faults = [])
      (page : List LinkRecord)
      (hpage : page = st.index.page job.progress.cursor job.pageSize)
      (hnonempty : page ≠ []) :
      Turn job st
        ((.ok (.deleted (st.index.delete (page.filterMap (·.id))).1),
            { job with
              progress := behindPage job.progress (page.filterMap (·.id))
                (st.index.delete (page.filterMap (·.id))).1 }),
          { st with index := (st.index.delete (page.filterMap (·.id))).2, faults := faults })

section AnyAccess

variable {σ : Type} {a : Access σ} {job : Removal} {s s' : σ}

theorem processPage_of_page_ok
    {size : Nat}
    {p : Progress}
    {page : List LinkRecord}
    (hopen : p.finished = false)
    (h : a.page p.cursor size s = (.ok page, s')) :
    processPage a size p s = processLoaded a p page s' := by
  rw [processPage, hopen, if_neg Bool.false_ne_true, Step.bind_of_ok (Step.mapFailure_of_ok h)]

theorem processPage_of_page_error
    {size : Nat}
    {p : Progress}
    {text : String}
    (hopen : p.finished = false)
    (h : a.page p.cursor size s = (.error text, s')) :
    processPage a size p s = (.error (.storage text), s') := by
  rw [processPage, hopen, if_neg Bool.false_ne_true,
    Step.bind_of_error (Step.mapFailure_of_error h)]

/-- A page that fails leaves the job as it is. -/
theorem next_of_error
    {failure : Failure}
    (h : processPage a job.pageSize job.progress s = (.error failure, s')) :
    job.next a s = ((.error failure, job), s') := by
  rw [next, h]

theorem next_of_ok
    {outcome : PageOutcome}
    {p : Progress}
    (h : processPage a job.pageSize job.progress s = (.ok (outcome, p), s')) :
    job.next a s = ((.ok outcome, { job with progress := p }), s') := by
  rw [next, h]

/-- A page that succeeds gives the job new progress. -/
theorem exists_of_next_ok
    {outcome : PageOutcome}
    {job' : Removal}
    (h : job.next a s = ((.ok outcome, job'), s')) :
    ∃ p, processPage a job.pageSize job.progress s = (.ok (outcome, p), s') ∧
      job' = { job with progress := p } := by
  unfold next at h
  split at h
  · next heq =>
    cases h
    exact ⟨_, heq, rfl⟩
  · cases h

/-- A page of a finished job does nothing. -/
theorem next_of_finished
    (h : job.progress.finished = true)
    (s : σ) :
    job.next a s = ((.ok .finished, job), s) := by
  have hprocess : processPage a job.pageSize job.progress s =
      (.ok (.finished, job.progress), s) := by
    rw [processPage, if_pos h]
    rfl
  exact next_of_ok hprocess

theorem runFor_of_finished
    (h : job.progress.finished = true)
    (cancelled : Nat → Bool)
    (fuel : Nat)
    (s : σ) :
    runFor a cancelled (fuel + 1) job s = ((some (.ok job.progress), job), s) := by
  rw [runFor, if_pos h]

/-- A run that goes on does the next page first. -/
theorem runFor_of_next
    {cancelled : Nat → Bool}
    {outcome : PageOutcome}
    {job' : Removal}
    (hfinished : job.progress.finished = false)
    (hcancelled : cancelled 0 = false)
    (hnext : job.next a s = ((.ok outcome, job'), s'))
    (fuel : Nat) :
    runFor a cancelled (fuel + 1) job s =
      runFor a (fun k => cancelled (k + 1)) fuel job' s' := by
  rw [runFor, hfinished, if_neg Bool.false_ne_true, hcancelled, if_neg Bool.false_ne_true, hnext]

end AnyAccess

/-- An empty page fails, is the last one, or starts a new sweep. -/
theorem processLoaded_nil
    (p : Progress)
    (st : Fallible) :
    ∃ faults, (st.faults = [] → faults = []) ∧
      ((st.faults ≠ [] ∧ ∃ failure, processLoaded Fallible.access p [] st =
          (.error failure, { st with faults := faults })) ∨
        processLoaded Fallible.access p [] st =
          (atEmptyPage p st.index.count, { st with faults := faults })) := by
  obtain ⟨faults, hfaults, ⟨hsome, text, hfail⟩ | hcount⟩ :=
    Fallible.guarded_cases .count (Fallible.onIndex Index.access.count) st
  · refine ⟨faults, hfaults, Or.inl ⟨hsome, .storage text, ?_⟩⟩
    rw [processLoaded, if_pos List.isEmpty_nil]
    exact Step.bind_of_error (Step.mapFailure_of_error hfail)
  · refine ⟨faults, hfaults, Or.inr ?_⟩
    rw [processLoaded, if_pos List.isEmpty_nil]
    exact Step.bind_of_ok (Step.mapFailure_of_ok hcount)

/-- A page of records fails, or its records are removed. -/
theorem processLoaded_of_ne_nil
    (p : Progress)
    (st : Fallible)
    {page : List LinkRecord}
    (h : page ≠ []) :
    ∃ faults, (st.faults = [] → faults = []) ∧
      ((st.faults ≠ [] ∧ ∃ failure, processLoaded Fallible.access p page st =
          (.error failure, { st with faults := faults })) ∨
        processLoaded Fallible.access p page st =
          (.ok (.deleted (st.index.delete (page.filterMap (·.id))).1,
              behindPage p (page.filterMap (·.id)) (st.index.delete (page.filterMap (·.id))).1),
            { st with
              index := (st.index.delete (page.filterMap (·.id))).2
              faults := faults })) := by
  have hempty : ¬ page.isEmpty = true := by rwa [List.isEmpty_iff]
  obtain ⟨faults, hfaults, ⟨hsome, text, hfail⟩ | hdelete⟩ :=
    Fallible.delete_cases (page.filterMap (·.id)) st
  · refine ⟨faults, hfaults, Or.inl ⟨hsome, .storage text, ?_⟩⟩
    rw [processLoaded, if_neg hempty]
    exact Step.bind_of_error (Step.mapFailure_of_error hfail)
  · refine ⟨faults, hfaults, Or.inr ?_⟩
    rw [processLoaded, if_neg hempty]
    exact Step.bind_of_ok (Step.mapFailure_of_ok hdelete)

section Turns

variable {job : Removal} {st : Fallible} {rest : List ArmedFault}

/-- An empty page is a turn.  If no fault made it empty and the cursor is at the beginning, records
that are counted but not listed would need pages of no size. -/
theorem turn_of_page_nil
    (hrest : st.faults = [] → rest = [])
    (hprocess : processPage Fallible.access job.pageSize job.progress st =
      processLoaded Fallible.access job.progress [] { st with faults := rest })
    (hpage : [] = st.index.page job.progress.cursor job.pageSize ∨ st.faults ≠ []) :
    Turn job st (job.next Fallible.access st) := by
  have hcause : rest ≠ [] → st.faults ≠ [] := fun hne hnone => hne (hrest hnone)
  obtain ⟨faults, hfaults, ⟨hsome, failure, hfail⟩ | hlast⟩ :=
    processLoaded_nil job.progress { st with faults := rest }
  · rw [hfail] at hprocess
    rw [next_of_error hprocess]
    exact .failed _ _ (fun hnone => hfaults (hrest hnone)) (Or.inl (hcause hsome))
  · have hnone : st.faults = [] → faults = [] := fun hnone => hfaults (hrest hnone)
    rw [hlast] at hprocess
    change _ = (atEmptyPage job.progress st.index.count, _) at hprocess
    unfold atEmptyPage at hprocess
    split at hprocess
    · next hcount =>
      rw [next_of_ok hprocess]
      exact .finished _ hnone hcount
    · next hcount =>
      split at hprocess
      · next hcursor =>
        rw [next_of_error hprocess]
        refine .failed _ _ hnone ?_
        rcases hpage with hpage | hsome
        · refine Or.inr (Nat.eq_zero_of_not_pos fun hsize => hcount ?_)
          rw [hcursor] at hpage
          exact Index.count_of_page_eq_nil hsize hpage.symm
        · exact Or.inl hsome
      · next id hcursor =>
        rw [next_of_ok hprocess]
        exact .swept _ hnone id hcursor

theorem turn_of_page_ne_nil
    {page : List LinkRecord}
    (hrest : st.faults = [] → rest = [])
    (hprocess : processPage Fallible.access job.pageSize job.progress st =
      processLoaded Fallible.access job.progress page { st with faults := rest })
    (hpage : page = st.index.page job.progress.cursor job.pageSize)
    (hne : page ≠ []) :
    Turn job st (job.next Fallible.access st) := by
  obtain ⟨faults, hfaults, ⟨hsome, failure, hfail⟩ | hremoved⟩ :=
    processLoaded_of_ne_nil job.progress { st with faults := rest } hne
  · have hcause : st.faults ≠ [] := fun hnone => hsome (hrest hnone)
    rw [hfail] at hprocess
    rw [next_of_error hprocess]
    exact .failed _ _ (fun hnone => hfaults (hrest hnone)) (Or.inl hcause)
  · rw [hremoved] at hprocess
    rw [next_of_ok hprocess]
    exact .removed _ (fun hnone => hfaults (hrest hnone)) page hpage hne

/-- The next page of a job that is not finished takes one of the four turns. -/
theorem turn_next
    (hhidden : st.hidden = false)
    (hfinished : job.progress.finished = false) :
    Turn job st (job.next Fallible.access st) := by
  obtain ⟨rest, hrest, ⟨hsome, text, hfail⟩ | ⟨page, hload, hpage⟩⟩ :=
    Fallible.page_cases hhidden job.progress.cursor job.pageSize
  · rw [next_of_error (processPage_of_page_error hfinished hfail)]
    exact .failed _ _ hrest (Or.inl hsome)
  · have hprocess := processPage_of_page_ok hfinished hload
    by_cases hempty : page = []
    · subst hempty
      exact turn_of_page_nil hrest hprocess (hpage.imp_right And.left)
    · rcases hpage with hpage | ⟨-, hnil⟩
      · exact turn_of_page_ne_nil hrest hprocess hpage hempty
      · exact absurd hnil hempty

end Turns

/-! ## What pages and runs keep -/

/-- What pages keep: the shape of the index, the size of the pages, and the sum of the records that
are there and those that the job has removed.  Faults do not appear out of nothing. -/
structure Kept (job : Removal) (st : Fallible) (job' : Removal) (st' : Fallible) : Prop where
  wellFormed : st'.index.WellFormed
  listed : st'.hidden = false
  pageSize : job'.pageSize = job.pageSize
  total : st'.index.count + job'.progress.deleted = st.index.count + job.progress.deleted
  faults : st.faults = [] → st'.faults = []

theorem Kept.refl
    {job : Removal}
    {st : Fallible}
    (hx : st.index.WellFormed)
    (hhidden : st.hidden = false) :
    Kept job st job st :=
  ⟨hx, hhidden, rfl, rfl, id⟩

theorem Kept.trans
    {job job' job'' : Removal}
    {st st' st'' : Fallible}
    (h : Kept job st job' st')
    (h' : Kept job' st' job'' st'') :
    Kept job st job'' st'' :=
  ⟨h'.wellFormed, h'.listed, h'.pageSize.trans h.pageSize, h'.total.trans h.total,
    fun hnone => h'.faults (h.faults hnone)⟩

theorem Turn.kept
    {job job' : Removal}
    {st st' : Fallible}
    {result : Except Failure PageOutcome}
    (hx : st.index.WellFormed)
    (hhidden : st.hidden = false)
    (h : Turn job st ((result, job'), st')) :
    Kept job st job' st' := by
  cases h with
  | failed failure faults hfaults hcause => exact ⟨hx, hhidden, rfl, rfl, hfaults⟩
  | finished faults hfaults hempty => exact ⟨hx, hhidden, rfl, rfl, hfaults⟩
  | swept faults hfaults id hcursor => exact ⟨hx, hhidden, rfl, rfl, hfaults⟩
  | removed faults hfaults page hpage hnonempty =>
      refine ⟨hx.delete _, hhidden, rfl, ?_, hfaults⟩
      have hcount := st.index.count_delete (page.filterMap (·.id))
      simp only [behindPage]
      omega

/-- A job finishes only if no record is left. -/
theorem Turn.count_of_finished
    {job job' : Removal}
    {st st' : Fallible}
    {result : Except Failure PageOutcome}
    (h : Turn job st ((result, job'), st'))
    (hfinished : job.progress.finished = false)
    (hfinished' : job'.progress.finished = true) :
    st'.index.count = 0 := by
  cases h with
  | failed failure faults hfaults hcause =>
      exact absurd (hfinished.symm.trans hfinished') Bool.false_ne_true
  | finished faults hfaults hempty => exact hempty
  | swept faults hfaults id hcursor =>
      exact absurd (hfinished.symm.trans hfinished') Bool.false_ne_true
  | removed faults hfaults page hpage hnonempty =>
      exact absurd (hfinished.symm.trans hfinished') Bool.false_ne_true

/-- What is left to do: two turns for every record, and one for the cursor. -/
def rank (job : Removal) (st : Fallible) : Nat :=
  2 * st.index.count + if job.progress.cursor.isSome then 1 else 0

/-- A page that does not finish a job leaves less to do. -/
theorem Turn.rank_lt
    {job job' : Removal}
    {st st' : Fallible}
    {outcome : PageOutcome}
    (hx : st.index.WellFormed)
    (h : Turn job st ((.ok outcome, job'), st'))
    (hfinished : job'.progress.finished = false) :
    job'.rank st' < job.rank st := by
  cases h with
  | finished faults hfaults hempty => cases hfinished
  | swept faults hfaults id hcursor =>
      simp only [rank, hcursor, Option.isSome_some, Option.isSome_none, if_true]
      exact Nat.lt_succ_self _
  | removed faults hfaults page hpage hnonempty =>
      have hcount := st.index.count_delete (page.filterMap (·.id))
      have hpos : 0 < (st.index.delete (page.filterMap (·.id))).1 := by
        subst hpage
        exact hx.delete_page_pos hnonempty
      simp only [rank]
      split
      · split
        · omega
        · omega
      · omega

/-! ## Runs -/

/-- Processes `k` pages; gives nothing if one fails. -/
def pages (a : Access Fallible) : Nat → Removal → Fallible → Option (Removal × Fallible)
  | 0, job, st => some (job, st)
  | k + 1, job, st =>
      match job.next a st with
      | ((.ok _, job'), st') => pages a k job' st'
      | ((.error _, _), _) => none

/-- All that a run can come to: nothing is left, or it is given up behind some pages. -/
inductive Ended (cancelled : Nat → Bool) (job : Removal) (st : Fallible) :
    (Option (Except Failure Progress) × Removal) × Fallible → Prop where
  | finished
      (job' : Removal)
      (st' : Fallible)
      (hfinished : job'.progress.finished = true)
      (hempty : job.progress.finished = false → st'.index.count = 0)
      (hkept : Kept job st job' st') :
      Ended cancelled job st ((some (.ok job'.progress), job'), st')
  | givenUp
      (failure : Failure)
      (k : Nat)
      (job' : Removal)
      (st' : Fallible)
      (faults : List ArmedFault)
      (hpages : job.pages Fallible.access k st = some (job', st'))
      (hfinished : job'.progress.finished = false)
      (hkept : Kept job st job' { st' with faults := faults })
      (hcause : st.faults ≠ [] ∨ job.pageSize = 0 ∨ ∃ k, cancelled k = true) :
      Ended cancelled job st ((some (.error failure), job'), { st' with faults := faults })

/-- A run behind a page that does not fail comes to what the rest of the run comes to. -/
theorem Ended.cons
    {cancelled : Nat → Bool}
    {job job' : Removal}
    {st st' : Fallible}
    {outcome : PageOutcome}
    {result : (Option (Except Failure Progress) × Removal) × Fallible}
    (hnext : job.next Fallible.access st = ((.ok outcome, job'), st'))
    (hkept : Kept job st job' st')
    (hfinished' : job'.progress.finished = false)
    (h : Ended (fun k => cancelled (k + 1)) job' st' result) :
    Ended cancelled job st result := by
  cases h with
  | finished job'' st'' hfinished hempty hkept' =>
      exact .finished _ _ hfinished (fun _ => hempty hfinished') (hkept.trans hkept')
  | givenUp failure k job'' st'' faults hpages hfinished hkept' hcause =>
      refine .givenUp failure (k + 1) _ _ _ ?_ hfinished (hkept.trans hkept') ?_
      · rw [pages, hnext]
        exact hpages
      · rcases hcause with hcause | hcause | ⟨k, hk⟩
        · exact Or.inl fun hnone => hcause (hkept.faults hnone)
        · exact Or.inr (Or.inl (hkept.pageSize.symm.trans hcause))
        · exact Or.inr (Or.inr ⟨k + 1, hk⟩)

theorem Ended.kept
    {cancelled : Nat → Bool}
    {job job' : Removal}
    {st st' : Fallible}
    {result : Option (Except Failure Progress)}
    (h : Ended cancelled job st ((result, job'), st')) :
    Kept job st job' st' := by
  cases h with
  | finished _ _ hfinished hempty hkept => exact hkept
  | givenUp failure k _ st'' faults hpages hfinished hkept hcause => exact hkept

/-- A run finishes a job only if no record is left. -/
theorem Ended.count_of_finished
    {cancelled : Nat → Bool}
    {job job' : Removal}
    {st st' : Fallible}
    {result : Option (Except Failure Progress)}
    (h : Ended cancelled job st ((result, job'), st'))
    (hfinished : job.progress.finished = false)
    (hfinished' : job'.progress.finished = true) :
    st'.index.count = 0 := by
  cases h with
  | finished _ _ hdone hempty hkept => exact hempty hfinished
  | givenUp failure k _ st'' faults hpages hopen hkept hcause =>
      exact absurd (hopen.symm.trans hfinished') Bool.false_ne_true

theorem Ended.of_failed
    {cancelled : Nat → Bool}
    {job job' : Removal}
    {st st' : Fallible}
    {failure : Failure}
    (hx : st.index.WellFormed)
    (hhidden : st.hidden = false)
    (hfinished : job.progress.finished = false)
    (h : Turn job st ((.error failure, job'), st')) :
    Ended cancelled job st ((some (.error failure), job'), st') := by
  have hkept := h.kept hx hhidden
  cases h with
  | failed _ faults hfaults hcause =>
      refine .givenUp failure 0 job st faults rfl hfinished hkept ?_
      rcases hcause with hcause | hcause
      · exact Or.inl hcause
      · exact Or.inr (Or.inl hcause)

/-- A run with rounds enough comes to an end. -/
theorem ended_runFor
    {fuel : Nat}
    {cancelled : Nat → Bool}
    {job : Removal}
    {st : Fallible}
    (hx : st.index.WellFormed)
    (hhidden : st.hidden = false)
    (hfuel : job.rank st + 2 ≤ fuel) :
    Ended cancelled job st (runFor Fallible.access cancelled fuel job st) := by
  -- A page that does not finish the job lowers the rank, so the rounds that are left suffice for
  -- the rest.  The page that finishes it does not, hence the round to spare.
  induction fuel generalizing cancelled job st with
  | zero => omega
  | succ fuel ih =>
      by_cases hfinished : job.progress.finished = true
      · rw [runFor_of_finished hfinished]
        exact .finished _ _ hfinished (fun h => by rw [h] at hfinished; cases hfinished)
          (Kept.refl hx hhidden)
      · have hunfinished := Bool.eq_false_iff.2 hfinished
        rw [runFor, if_neg hfinished]
        by_cases hcancelled : cancelled 0 = true
        · rw [if_pos hcancelled]
          exact .givenUp .cancelled 0 job st st.faults rfl hunfinished (Kept.refl hx hhidden)
            (Or.inr (Or.inr ⟨0, hcancelled⟩))
        · rw [if_neg hcancelled]
          have hturn := turn_next hhidden hunfinished
          rcases hnext : job.next Fallible.access st with ⟨⟨failure | outcome, job'⟩, st'⟩
          · rw [hnext] at hturn
            exact .of_failed hx hhidden hunfinished hturn
          · rw [hnext] at hturn
            have hkept := hturn.kept hx hhidden
            by_cases hdone : job'.progress.finished = true
            · obtain ⟨fuel, rfl⟩ := Nat.exists_eq_add_one_of_ne_zero (show fuel ≠ 0 by omega)
              dsimp only
              rw [runFor_of_finished hdone]
              exact .finished _ _ hdone
                (fun _ => hturn.count_of_finished hunfinished hdone) hkept
            · have hopen := Bool.eq_false_iff.2 hdone
              have hless := hturn.rank_lt hx hopen
              exact .cons hnext hkept hopen (ih hkept.wellFormed hkept.listed (by omega))

/-- A run comes to an end. -/
theorem ended_runUntil
    {st : Fallible}
    (hx : st.index.WellFormed)
    (hhidden : st.hidden = false)
    (job : Removal)
    (cancelled : Nat → Bool) :
    Ended cancelled job st (job.runUntil Fallible.access cancelled st) := by
  refine ended_runFor hx hhidden ?_
  have hbound : Fallible.access.bound st = st.index.count := rfl
  rw [rank, rounds, hbound]
  split
  · omega
  · omega

/-- A job that is found to be cancelled at once stops with everything as it was. -/
theorem runUntil_of_cancelled
    {job : Removal}
    {cancelled : Nat → Bool}
    (hfinished : job.progress.finished = false)
    (hcancelled : cancelled 0 = true)
    (st : Fallible) :
    job.runUntil Fallible.access cancelled st = ((some (.error .cancelled), job), st) := by
  rw [runUntil, rounds, runFor, hfinished, if_neg Bool.false_ne_true, if_pos hcancelled]

end Removal
end LinkLedger
