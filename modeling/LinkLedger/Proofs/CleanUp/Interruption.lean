import LinkLedger.Proofs.CleanUp.Shared

/-!
# A removal that is interrupted

A removal goes on for long.  Between its pages and within them others create and change records,
calls fail and pages are wrongly empty, runs are cancelled, and the job is saved and taken up again
with pages of another size.  Through all of this the records that were there and those that came
are exactly those that are there and those that the job says it removed.

**Results.**
* `Event.Counted`: the events that keep the balance of records.
* `Balanced.after`, `Balanced.afterAll`: the balance behind an event and behind all of them.
* `SharedRemoval.removal_is_exact`: what a job says of itself is true, failures lose and repeat
  nothing, and a run that is left alone finishes.
-/

namespace LinkLedger
namespace SharedRemoval

open Removal

/-- Events in which nobody but the job removes records, and the job is taken up from no progress but
the latest. -/
def Event.Counted : Event → Prop
  | .delete _ | .restore _ _ => False
  | _ => True

/-- The records that were there and those created are those that are there and those removed. -/
structure Balanced (x : Index) (s : SharedRemoval) : Prop where
  sound : Sound s
  balance : x.count + s.created = s.store.index.count + s.job.progress.deleted

variable {x : Index} {s : SharedRemoval}

/-! ## Events keep the balance -/

theorem balanced_start
    (hx : x.WellFormed)
    (contents : List Content)
    (pageSize : Nat) :
    Balanced x (start x contents pageSize) :=
  ⟨sound_start hx contents pageSize, rfl⟩

/-- The balance is kept where none of the numbers in it changes. -/
theorem Balanced.of_same
    {t : SharedRemoval}
    (h : Balanced x s)
    (hsound : Sound t)
    (hcreated : t.created = s.created)
    (hcount : t.store.index.count = s.store.index.count)
    (hdeleted : t.job.progress.deleted = s.job.progress.deleted) :
    Balanced x t :=
  ⟨hsound, by rw [hcreated, hcount, hdeleted, h.balance]⟩

theorem Balanced.load
    (h : Balanced x s) :
    Balanced x (s.after .load) := by
  have hsound := h.sound.load
  obtain ⟨faults, hload | ⟨page, -, -, hload⟩⟩ := load_cases h.sound.listed
  · rw [hload] at hsound ⊢
    exact h.of_same hsound rfl rfl rfl
  · rw [hload] at hsound ⊢
    exact h.of_same hsound rfl rfl rfl

theorem Balanced.process
    (h : Balanced x s) :
    Balanced x (s.after .process) := by
  have hsound := h.sound.process
  have hprocessed := s.processed
  generalize s.after .process = t at hsound hprocessed
  cases hprocessed with
  | idle hloaded => exact h
  | failed faults => exact h.of_same hsound rfl rfl rfl
  | finished faults hempty => exact h.of_same hsound rfl rfl rfl
  | swept faults => exact h.of_same hsound rfl rfl rfl
  | removed faults page hloaded =>
      have hbalance := h.balance
      have hcount := s.store.index.count_delete (page.filterMap (·.id))
      refine ⟨hsound, ?_⟩
      simp only [behindPage]
      omega

theorem Balanced.page
    (h : Balanced x s) :
    Balanced x (s.after .page) := by
  rw [after_page]
  exact h.load.process

theorem Balanced.draw
    (h : Balanced x s) :
    Balanced x (s.after .draw) := by
  have hsound := h.sound.draw
  obtain ⟨rest, ⟨text, hfail⟩ | hmade⟩ := s.store.draw_cases
  · rw [SharedRemoval.after, hfail] at hsound ⊢
    exact h.of_same hsound rfl rfl rfl
  · rw [SharedRemoval.after, hmade] at hsound ⊢
    exact h.of_same hsound rfl rfl rfl

theorem Balanced.insert
    (h : Balanced x s)
    (id : Nat)
    (r : LinkRecord) :
    Balanced x (s.after (.insert id r)) := by
  refine ⟨h.sound.insert id r, ?_⟩
  rw [SharedRemoval.after]
  split
  · next hid =>
    have hbalance := h.balance
    have hcount := Index.count_insert (h.sound.unused id hid) r
    dsimp only
    omega
  · exact h.balance

theorem Balanced.update
    (h : Balanced x s)
    (r : LinkRecord) :
    Balanced x (s.after (.update r)) := by
  refine h.of_same (h.sound.after _) rfl ?_ rfl
  obtain ⟨rest, ⟨text, hfail⟩ | ⟨y, hupdate, hmade⟩⟩ := Fallible.update_cases r s.store
  · rw [SharedRemoval.after, hfail]
  · rw [SharedRemoval.after, hmade]
    have hnumbers := congrArg List.length (Index.numbers_update hupdate)
    rwa [List.length_map, List.length_map] at hnumbers

theorem Balanced.run
    (h : Balanced x s)
    (cancelled : Nat → Bool) :
    Balanced x (s.after (.run cancelled)) :=
  after_run (fun _ ht => ht.page) (h.of_same h.sound.dropped rfl rfl rfl) cancelled

theorem Balanced.after
    (h : Balanced x s)
    {event : Event}
    (hcounted : event.Counted) :
    Balanced x (s.after event) := by
  cases event with
  | page => exact h.page
  | load => exact h.load
  | process => exact h.process
  | run cancelled => exact h.run cancelled
  | create r =>
      rw [h.sound.after_create]
      exact h.draw.insert _ r
  | draw => exact h.draw
  | insert id r => exact h.insert id r
  | update r => exact h.update r
  | delete ids => exact hcounted.elim
  | arm faults => exact h.of_same (h.sound.after _) rfl rfl rfl
  | save => exact h.of_same (h.sound.after _) rfl rfl rfl
  | restore text pageSize => exact hcounted.elim
  | resume pageSize =>
      have hsound := h.sound.after (.resume pageSize)
      rcases s.resume_cases pageSize with heq | heq
      · rwa [heq]
      · rw [heq] at hsound ⊢
        exact h.of_same hsound rfl rfl rfl

theorem Balanced.afterAll
    (h : Balanced x s)
    {events : List Event}
    (hcounted : ∀ event ∈ events, event.Counted) :
    Balanced x (s.afterAll events) := by
  refine afterAll_induction (P := fun front t => (∀ event ∈ front, event.Counted) → Balanced x t)
    (fun _ => h) (fun front event ih hall => ?_) events hcounted
  have hfront := ih fun e he => hall e (List.mem_append_left _ he)
  exact hfront.after (hall event (by simp))

/-! ## What a job says of itself -/

/-- A job finishes only where no record is left. -/
theorem Balanced.count_of_finished
    (h : Balanced x s)
    {event : Event}
    (hcounted : event.Counted)
    (hfinished : s.job.progress.finished = false)
    (hfinished' : (s.after event).job.progress.finished = true) :
    (s.after event).store.index.count = 0 := by
  have hsame : (s.after event).job.progress = s.job.progress →
      (s.after event).store.index.count = 0 := fun heq => by
    rw [heq, hfinished] at hfinished'
    cases hfinished'
  have hothers : event.ByOthers → (s.after event).store.index.count = 0 :=
    fun hby => hsame (congrArg Removal.progress (after_byOthers hby s).1)
  cases event with
  | page => exact (turn_next h.sound.listed hfinished).count_of_finished hfinished hfinished'
  | load =>
      refine hsame ?_
      obtain ⟨faults, hload | ⟨page, -, -, hload⟩⟩ := load_cases h.sound.listed
      · rw [hload]
      · rw [hload]
  | process =>
      have hprocessed := s.processed
      generalize s.after .process = t at hsame hfinished' hprocessed
      cases hprocessed with
      | idle hloaded => exact hsame rfl
      | failed faults => exact hsame rfl
      | finished faults hempty => exact hempty
      | swept faults => exact absurd (hfinished.symm.trans hfinished') Bool.false_ne_true
      | removed faults page hloaded =>
          exact absurd (hfinished.symm.trans hfinished') Bool.false_ne_true
  | run cancelled =>
      have hended := ended_runUntil h.sound.wellFormed h.sound.listed s.job cancelled
      exact hended.count_of_finished hfinished hfinished'
  | create r => exact hothers (.create r)
  | draw => exact hothers .draw
  | insert id r => exact hothers (.insert id r)
  | update r => exact hothers (.update r)
  | delete ids => exact hothers (.delete ids)
  | arm faults => exact hothers (.arm faults)
  | save => exact hsame rfl
  | restore text pageSize => exact hcounted.elim
  | resume pageSize =>
      refine hsame ?_
      rcases s.resume_cases pageSize with heq | heq
      · rw [heq]
      · rw [heq]
        rfl

/-- A page that fails changes neither the job nor the index. -/
theorem Sound.next_of_error
    (h : Sound s)
    {failure : Failure}
    {job : Removal}
    {store : Fallible}
    (hnext : s.job.next Fallible.access s.store = ((.error failure, job), store)) :
    job = s.job ∧ store.index = s.store.index := by
  by_cases hfinished : s.job.progress.finished = true
  · rw [next_of_finished hfinished] at hnext
    cases hnext
  · have hturn := turn_next h.listed (Bool.eq_false_iff.2 hfinished)
    rw [hnext] at hturn
    cases hturn with
    | failed _ faults hfaults hcause => exact ⟨rfl, rfl⟩

/-- A run that fails has left the job and the index as some number of its pages left them. -/
theorem Sound.runUntil_of_error
    (h : Sound s)
    (cancelled : Nat → Bool) :
    ∃ result job store,
      s.job.runUntil Fallible.access cancelled s.store = ((some result, job), store) ∧
        ∀ failure, result = .error failure →
          job.progress.finished = false ∧
            ∃ k store', s.job.pages Fallible.access k s.store = some (job, store') ∧
              store.index = store'.index := by
  have hended := ended_runUntil h.wellFormed h.listed s.job cancelled
  rcases hrun : s.job.runUntil Fallible.access cancelled s.store with ⟨⟨result, job⟩, store⟩
  rw [hrun] at hended
  cases hended with
  | finished _ _ hfinished hempty hkept =>
      exact ⟨_, _, _, rfl, fun failure hfailure => by cases hfailure⟩
  | givenUp failure k _ store' faults hpages hfinished hkept hcause =>
      exact ⟨_, _, _, rfl, fun _ _ => ⟨hfinished, k, store', hpages, rfl⟩⟩

/-- A run that no fault and no cancellation meets finishes. -/
theorem Balanced.run_of_no_faults
    (h : Balanced x s)
    (hfinished : s.job.progress.finished = false) :
    ∃ job store,
      s.job.run Fallible.access false s.store.calm =
          ((some (.ok job.progress), job), store) ∧
        job.progress.finished = true ∧ store.index.count = 0 ∧
          job.progress.deleted = x.count + s.created := by
  have hcalm : Balanced x { s with store := s.store.calm } :=
    (h.after trivial : Balanced x (s.after (.arm [])))
  have hrest : Balanced x
      { s with
        store := (s.job.runUntil Fallible.access (fun _ => false) s.store.calm).2
        job := (s.job.runUntil Fallible.access (fun _ => false) s.store.calm).1.2
        loaded := none } :=
    hcalm.run fun _ => false
  have hended := ended_runUntil hcalm.sound.wellFormed hcalm.sound.listed s.job fun _ => false
  have hcall : s.job.run Fallible.access false s.store.calm =
      s.job.runUntil Fallible.access (fun _ => false) s.store.calm := rfl
  rw [hcall]
  rcases hrun : s.job.runUntil Fallible.access (fun _ => false) s.store.calm with
    ⟨⟨result, job⟩, store⟩
  rw [hrun] at hended hrest
  have hbalance := hrest.balance
  cases hended with
  | finished _ _ hdone hempty hkept =>
      have hnone := hempty hfinished
      refine ⟨job, store, rfl, hdone, hnone, ?_⟩
      dsimp only at hbalance hnone
      omega
  | givenUp failure k _ store' faults hpages hopen hkept hcause =>
      rcases hcause with hcause | hcause | ⟨k, hk⟩
      · exact absurd rfl hcause
      · exact absurd hcause (Nat.ne_of_gt h.sound.pageSize)
      · cases hk

/-- Progress whose numbers fit is taken up as it was. -/
theorem after_resume_of_fits
    (h : s.job.progress.Fits)
    (pageSize : Nat) :
    s.after (.resume pageSize) =
      { s with job := .resume pageSize s.job.progress, loaded := none } := by
  rw [after, Progress.ofText_toText h]

/--
Whatever happens between and during the pages of a removal, as long as nobody else removes records
and the job is taken up from its latest progress only: the records that were there and those
created are those that are there and those that the job has counted as removed.  The job finishes
only where no record is left.  A page that fails changes neither the job nor the index, nor does a
run that is found to be cancelled at once.  Every run comes to an end; one that fails has left
everything as the pages in front of the failure left it, and a run that nothing disturbs then
finishes with no record left.  Saved progress is taken up as it was.
-/
theorem removal_is_exact
    (hx : x.WellFormed)
    (contents : List Content)
    (pageSize : Nat)
    (events : List Event)
    (hcounted : ∀ event ∈ events, event.Counted)
    (hs : s = (start x contents pageSize).afterAll events) :
    x.count + s.created = s.store.index.count + s.job.progress.deleted ∧
      (∀ event : Event, event.Counted →
        s.job.progress.finished = false → (s.after event).job.progress.finished = true →
          (s.after event).store.index.count = 0) ∧
      (∀ failure job store,
        s.job.next Fallible.access s.store = ((.error failure, job), store) →
          job = s.job ∧ store.index = s.store.index) ∧
      (∀ cancelled : Nat → Bool, s.job.progress.finished = false → cancelled 0 = true →
        s.job.runUntil Fallible.access cancelled s.store =
          ((some (.error .cancelled), s.job), s.store)) ∧
      (∀ cancelled : Nat → Bool, ∃ result job store,
        s.job.runUntil Fallible.access cancelled s.store = ((some result, job), store) ∧
          ∀ failure, result = .error failure →
            job.progress.finished = false ∧
              ∃ k store', s.job.pages Fallible.access k s.store = some (job, store') ∧
                store.index = store'.index) ∧
      (s.job.progress.finished = false → ∃ job store,
        s.job.run Fallible.access false s.store.calm =
            ((some (.ok job.progress), job), store) ∧
          job.progress.finished = true ∧ store.index.count = 0 ∧
            job.progress.deleted = x.count + s.created) ∧
      ∀ pageSize, s.job.progress.Fits →
        s.after (.resume pageSize) =
          { s with job := .resume pageSize s.job.progress, loaded := none } := by
  have hbalanced : Balanced x s := by
    rw [hs]
    exact (balanced_start hx contents pageSize).afterAll hcounted
  refine ⟨hbalanced.balance, ?_, ?_, ?_, ?_, ?_, ?_⟩
  · exact fun event hcounted hfinished hfinished' =>
      hbalanced.count_of_finished hcounted hfinished hfinished'
  · exact fun failure job store hnext => hbalanced.sound.next_of_error hnext
  · exact fun cancelled hfinished hcancelled =>
      runUntil_of_cancelled hfinished hcancelled s.store
  · exact fun cancelled => hbalanced.sound.runUntil_of_error cancelled
  · exact fun hfinished => hbalanced.run_of_no_faults hfinished
  · exact fun pageSize hfits => after_resume_of_fits hfits pageSize

/-- A job whose first page fails, with a record created behind it. -/
theorem removal_is_exact_behind_failed_page :
    ∃ s job store,
      s = (start (Index.empty.create (.ofOccurrence "a" ⟨"node", "1"⟩ "see" "en")).2 [] 1).afterAll
        [.arm [⟨.delete, some "locked", 0⟩], .page,
          .create (.ofOccurrence "b" ⟨"node", "2"⟩ "see" "en")] ∧
        s.job.run Fallible.access false s.store.calm =
          ((some (.ok job.progress), job), store) ∧ job.progress.deleted = 2 := by
  have hall := removal_is_exact
    (Index.wellFormed_empty.create (.ofOccurrence "a" ⟨"node", "1"⟩ "see" "en")) [] 1
    [.arm [⟨.delete, some "locked", 0⟩], .page,
      .create (.ofOccurrence "b" ⟨"node", "2"⟩ "see" "en")]
    (by simp [Event.Counted]) rfl
  obtain ⟨job, store, hrun, -, -, hdeleted⟩ := hall.2.2.2.2.2.1 rfl
  exact ⟨_, job, store, rfl, hrun, hdeleted⟩

end SharedRemoval
end LinkLedger
