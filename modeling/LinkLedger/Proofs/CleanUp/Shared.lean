import LinkLedger.CleanUp.Shared
import LinkLedger.Proofs.CleanUp.Document
import LinkLedger.Proofs.CleanUp.Removal
import Mathlib.Data.List.Induction

/-!
# A removal among others, event by event

Whole pages, runs and creations are made of single steps.  What every single step keeps is kept by
whatever happens.

**Results.**
* `Index.Later`: what becomes of an index by the operations; no number is given again.
* `load_cases`, `processed`: all that the two halves of a page can do.
* `after_page`: a page is loaded and then processed; `after_run`: a run is made of pages.
* `Sound.after_create`: a record is taken in under a number that has been drawn in front of it.
* `afterAll_induction`: what holds behind events, by what the last of them does.
* `Sound.afterAll`: the index is sound, and no number drawn for a record belongs to another one.
-/

namespace LinkLedger

/-! ## What becomes of an index -/

namespace Index

/-- What becomes of an index by drawing numbers, by taking in records under numbers drawn since, by
writing to records and by removing them: its records carry numbers that records of the first index
carry, or numbers above all that were drawn there. -/
structure Later (x y : Index) : Prop where
  last_le : x.last ≤ y.last
  numbers : ∀ e ∈ y.entries, e.1 ∈ x.entries.map (·.1) ∨ x.last < e.1
  wellFormed : x.WellFormed → y.WellFormed

variable {x y : Index}

theorem Later.refl
    (x : Index) :
    Later x x :=
  ⟨Nat.le_refl _, fun _ he => Or.inl (List.mem_map_of_mem he), id⟩

theorem later_draw
    (x : Index) :
    Later x x.draw.2 :=
  ⟨Nat.le_succ _, fun _ he => Or.inl (List.mem_map_of_mem he), fun hx => hx.draw⟩

theorem later_update
    {r : LinkRecord}
    (h : x.update r = .ok y) :
    Later x y := by
  refine ⟨?_, fun e he => Or.inl ?_, fun hx => hx.update h⟩
  · obtain ⟨id, -, rfl⟩ := eq_of_update h
    exact Nat.le_refl _
  · rw [← numbers_update h]
    exact List.mem_map_of_mem he

theorem later_delete
    (x : Index)
    (ids : List Nat) :
    Later x (x.delete ids).2 := by
  refine ⟨?_, fun e he => ?_, fun hx => hx.delete ids⟩
  · exact Nat.le_of_eq (by rw [delete, foldl_erase])
  · rw [entries_delete] at he
    exact Or.inl (List.mem_map_of_mem (List.mem_filter.1 he).1)

end Index

namespace Fallible

/-- A store whose index is a later one, and that lists records as before. -/
structure Later (st st' : Fallible) : Prop where
  index : st.index.Later st'.index
  hidden : st'.hidden = st.hidden

theorem later_faults
    (st : Fallible)
    (faults : List ArmedFault) :
    Later st { st with faults := faults } :=
  ⟨.refl _, rfl⟩

/-- Drawing a number fails without effect, or it gives the next one. -/
theorem draw_cases
    (st : Fallible) :
    ∃ rest, (∃ text, draw st = (.error text, { st with faults := rest })) ∨
      draw st =
        (.ok (st.index.last + 1), { st with index := st.index.draw.2, faults := rest }) := by
  obtain ⟨rest, -, ⟨-, hfail⟩ | hmade⟩ :=
    guarded_cases .create (onIndex (.ofUpdate Index.draw)) st
  · exact ⟨rest, Or.inl hfail⟩
  · exact ⟨rest, Or.inr hmade⟩

theorem later_update
    (r : LinkRecord)
    (st : Fallible) :
    Later st (access.update r st).2 := by
  obtain ⟨rest, ⟨text, hfail⟩ | ⟨y, hupdate, hmade⟩⟩ := update_cases r st
  · rw [hfail]
    exact st.later_faults rest
  · rw [hmade]
    exact ⟨Index.later_update hupdate, rfl⟩

theorem later_delete
    (ids : List Nat)
    (st : Fallible) :
    Later st (access.delete ids st).2 := by
  obtain ⟨rest, -, ⟨-, text, hfail⟩ | hmade⟩ := delete_cases ids st
  · rw [hfail]
    exact st.later_faults rest
  · rw [hmade]
    exact ⟨st.index.later_delete ids, rfl⟩

end Fallible

namespace SharedRemoval

open Removal

variable {s : SharedRemoval}

/-! ## The two halves of a page -/

/-- Loading finds the job finished or fails, or it gives the page or, wrongly, an empty one. -/
theorem load_cases
    (hlisted : s.store.hidden = false) :
    ∃ faults,
      s.after .load = { s with store := { s.store with faults := faults }, loaded := none } ∨
      ∃ page, s.job.progress.finished = false ∧
        (page = s.store.index.page s.job.progress.cursor s.job.pageSize ∨ page = []) ∧
        s.after .load =
          { s with store := { s.store with faults := faults }, loaded := some page } := by
  by_cases hfinished : s.job.progress.finished = true
  · exact ⟨s.store.faults, Or.inl (if_pos hfinished)⟩
  · obtain ⟨faults, -, ⟨-, text, hfail⟩ | ⟨page, hload, hpage⟩⟩ :=
      Fallible.page_cases hlisted s.job.progress.cursor s.job.pageSize
    · refine ⟨faults, Or.inl ?_⟩
      rw [after, if_neg hfinished, hfail]
    · refine ⟨faults, Or.inr ⟨page, Bool.eq_false_iff.2 hfinished, hpage.imp_right And.right, ?_⟩⟩
      rw [after, if_neg hfinished, hload]

/-- All that the processing of a loaded page can do. -/
inductive Processed (s : SharedRemoval) : SharedRemoval → Prop where
  | idle
      (hloaded : s.loaded = none) :
      Processed s s
  | failed
      (faults : List ArmedFault) :
      Processed s { s with store := { s.store with faults := faults }, loaded := none }
  | finished
      (faults : List ArmedFault)
      (hempty : s.store.index.count = 0) :
      Processed s
        { s with
          store := { s.store with faults := faults }
          job := { s.job with progress := { s.job.progress with finished := true } }
          loaded := none }
  | swept
      (faults : List ArmedFault) :
      Processed s
        { s with
          store := { s.store with faults := faults }
          job := { s.job with progress := { s.job.progress with cursor := none } }
          loaded := none }
  | removed
      (faults : List ArmedFault)
      (page : List LinkRecord)
      (hloaded : s.loaded = some page) :
      Processed s
        { s with
          store :=
            { s.store with
              index := (s.store.index.delete (page.filterMap (·.id))).2
              faults := faults }
          job :=
            { s.job with
              progress := behindPage s.job.progress (page.filterMap (·.id))
                (s.store.index.delete (page.filterMap (·.id))).1 }
          loaded := none }

theorem processed
    (s : SharedRemoval) :
    Processed s (s.after .process) := by
  rw [after]
  split
  · next hloaded => exact .idle hloaded
  · next page hloaded =>
    by_cases hnil : page = []
    · subst hnil
      obtain ⟨faults, -, ⟨-, failure, hfail⟩ | hempty⟩ := processLoaded_nil s.job.progress s.store
      · rw [hfail]
        exact .failed faults
      · rw [hempty, atEmptyPage]
        by_cases hcount : s.store.index.count = 0
        · rw [if_pos hcount]
          exact .finished faults hcount
        · rw [if_neg hcount]
          cases s.job.progress.cursor with
          | none => exact .failed faults
          | some id => exact .swept faults
    · obtain ⟨faults, -, ⟨-, failure, hfail⟩ | hremoved⟩ :=
        processLoaded_of_ne_nil s.job.progress s.store hnil
      · rw [hfail]
        exact .failed faults
      · rw [hremoved]
        exact .removed faults page hloaded

/-! ## Whole pages and runs -/

/-- A page is loaded and then processed. -/
theorem after_page
    (s : SharedRemoval) :
    s.after .page = (s.after .load).after .process := by
  by_cases hfinished : s.job.progress.finished = true
  · have hload : s.after .load = { s with loaded := none } := if_pos hfinished
    rw [hload, after, next_of_finished hfinished]
    rfl
  · have hopen := Bool.eq_false_iff.2 hfinished
    rcases hpage : Fallible.access.page s.job.progress.cursor s.job.pageSize s.store with
      ⟨text | page, store⟩
    · have hload : s.after .load = { s with store := store, loaded := none } := by
        rw [after, if_neg hfinished, hpage]
      rw [hload, after, next_of_error (processPage_of_page_error hopen hpage)]
      rfl
    · have hload : s.after .load = { s with store := store, loaded := some page } := by
        rw [after, if_neg hfinished, hpage]
      rw [hload, after, after, next, processPage_of_page_ok hopen hpage]
      dsimp only
      rcases processLoaded Fallible.access s.job.progress page store with
        ⟨failure | ⟨outcome, progress⟩, store'⟩
      · rfl
      · rfl

/-- What a job without a loaded page keeps when it does its next page, it keeps in a run of any
number of rounds. -/
theorem runFor_of_pages
    {P : SharedRemoval → Prop}
    (hpage : ∀ s, P s → P (s.after .page))
    (cancelled : Nat → Bool)
    (fuel : Nat)
    {s : SharedRemoval}
    (h : P { s with loaded := none }) :
    P { s with
        store := (s.job.runFor Fallible.access cancelled fuel s.store).2
        job := (s.job.runFor Fallible.access cancelled fuel s.store).1.2
        loaded := none } := by
  induction fuel generalizing s cancelled with
  | zero => exact h
  | succ fuel ih =>
      rw [runFor]
      split
      · exact h
      · split
        · exact h
        · have hnext := hpage _ h
          rw [after] at hnext
          dsimp only at hnext
          rcases hdone : s.job.next Fallible.access s.store with ⟨⟨failure | outcome, job⟩, store⟩
          · rw [hdone] at hnext
            exact hnext
          · rw [hdone] at hnext
            exact ih _ (s := ⟨store, job, s.created, s.underway, none, s.saved⟩) hnext

/-- What every page keeps, a run keeps. -/
theorem after_run
    {P : SharedRemoval → Prop}
    (hpage : ∀ s, P s → P (s.after .page))
    (h : P { s with loaded := none })
    (cancelled : Nat → Bool) :
    P (s.after (.run cancelled)) :=
  runFor_of_pages hpage cancelled (rounds s.store.index.count) h

/-! ## Behind events -/

@[simp] theorem afterAll_nil
    (s : SharedRemoval) :
    s.afterAll [] = s :=
  rfl

@[simp] theorem afterAll_cons
    (s : SharedRemoval)
    (event : Event)
    (events : List Event) :
    s.afterAll (event :: events) = (s.after event).afterAll events :=
  rfl

theorem afterAll_append
    (s : SharedRemoval)
    (events events' : List Event) :
    s.afterAll (events ++ events') = (s.afterAll events).afterAll events' :=
  List.foldl_append

/-- What holds at the start and is carried on by every event holds behind all events. -/
theorem afterAll_induction
    {P : List Event → SharedRemoval → Prop}
    (hstart : P [] s)
    (hstep : ∀ front event, P front (s.afterAll front) →
      P (front ++ [event]) ((s.afterAll front).after event))
    (events : List Event) :
    P events (s.afterAll events) := by
  induction events using List.reverseRecOn with
  | nil => exact hstart
  | append_singleton front event ih =>
      rw [afterAll_append]
      exact hstep front event ih

/-- The events in which only others do something. -/
inductive Event.ByOthers : Event → Prop where
  | create (r : LinkRecord) : ByOthers (.create r)
  | draw : ByOthers .draw
  | insert (id : Nat) (r : LinkRecord) : ByOthers (.insert id r)
  | update (r : LinkRecord) : ByOthers (.update r)
  | delete (ids : List Nat) : ByOthers (.delete ids)
  | arm (faults : List ArmedFault) : ByOthers (.arm faults)

/-- Others leave the job and its loaded page alone. -/
theorem after_byOthers
    {event : Event}
    (h : event.ByOthers)
    (s : SharedRemoval) :
    (s.after event).job = s.job ∧ (s.after event).loaded = s.loaded := by
  cases h with
  | create r | draw | insert id r =>
      rw [after]
      split
      · exact ⟨rfl, rfl⟩
      · exact ⟨rfl, rfl⟩
  | update r | delete ids | arm faults => exact ⟨rfl, rfl⟩

theorem afterAll_byOthers
    {events : List Event}
    (h : ∀ event ∈ events, event.ByOthers)
    (s : SharedRemoval) :
    (s.afterAll events).job = s.job ∧ (s.afterAll events).loaded = s.loaded := by
  induction events generalizing s with
  | nil => simp
  | cons event rest ih =>
      rw [afterAll_cons]
      obtain ⟨hjob, hloaded⟩ := after_byOthers (h event List.mem_cons_self) s
      obtain ⟨hjob', hloaded'⟩ := ih (fun e he => h e (List.mem_cons_of_mem _ he)) (s.after event)
      exact ⟨hjob'.trans hjob, hloaded'.trans hloaded⟩

/-! ## What every event keeps -/

/-- The index is sound, pages have records, and every number that is drawn for a record has been
given and belongs to no record yet. -/
structure Sound (s : SharedRemoval) : Prop where
  wellFormed : s.store.index.WellFormed
  listed : s.store.hidden = false
  pageSize : 1 ≤ s.job.pageSize
  nodup : s.underway.Nodup
  given : ∀ n ∈ s.underway, n ≤ s.store.index.last
  unused : ∀ n ∈ s.underway, ∀ e ∈ s.store.index.entries, e.1 ≠ n

theorem sound_start
    {x : Index}
    (hx : x.WellFormed)
    (contents : List Content)
    (pageSize : Nat) :
    Sound (start x contents pageSize) :=
  ⟨hx, rfl, Nat.le_max_right _ _, .nil, nofun, nofun⟩

/-- Nothing but an insertion changes what the numbers under way stand for. -/
theorem Sound.of_later
    {t : SharedRemoval}
    (h : Sound s)
    (hlater : s.store.Later t.store)
    (hsize : 1 ≤ t.job.pageSize)
    (hunderway : t.underway = s.underway) :
    Sound t := by
  refine ⟨hlater.index.wellFormed h.wellFormed, hlater.hidden.trans h.listed, hsize,
    hunderway ▸ h.nodup, fun n hn => ?_, fun n hn e he => ?_⟩
  · rw [hunderway] at hn
    exact Nat.le_trans (h.given n hn) hlater.index.last_le
  · rw [hunderway] at hn
    rcases hlater.index.numbers e he with hold | hnew
    · obtain ⟨d, hd, hsame⟩ := List.mem_map.1 hold
      rw [← hsame]
      exact h.unused n hn d hd
    · exact Nat.ne_of_gt (Nat.lt_of_le_of_lt (h.given n hn) hnew)

theorem Sound.dropped
    (h : Sound s) :
    Sound { s with loaded := none } :=
  h.of_later ⟨.refl _, rfl⟩ h.pageSize rfl

theorem Sound.load
    (h : Sound s) :
    Sound (s.after .load) := by
  obtain ⟨faults, hload | ⟨page, -, -, hload⟩⟩ := load_cases h.listed
  · rw [hload]
    exact h.of_later (s.store.later_faults faults) h.pageSize rfl
  · rw [hload]
    exact h.of_later (s.store.later_faults faults) h.pageSize rfl

theorem Sound.process
    (h : Sound s) :
    Sound (s.after .process) := by
  have hprocessed := s.processed
  generalize s.after .process = t at hprocessed
  cases hprocessed with
  | idle hloaded => exact h
  | failed faults => exact h.of_later (s.store.later_faults faults) h.pageSize rfl
  | finished faults hempty => exact h.of_later (s.store.later_faults faults) h.pageSize rfl
  | swept faults => exact h.of_later (s.store.later_faults faults) h.pageSize rfl
  | removed faults page hloaded =>
      exact h.of_later ⟨s.store.index.later_delete _, rfl⟩ h.pageSize rfl

theorem Sound.page
    (h : Sound s) :
    Sound (s.after .page) := by
  rw [after_page]
  exact h.load.process

theorem Sound.draw
    (h : Sound s) :
    Sound (s.after .draw) := by
  obtain ⟨rest, ⟨text, hfail⟩ | hmade⟩ := s.store.draw_cases
  · rw [SharedRemoval.after, hfail]
    exact h.of_later (s.store.later_faults rest) h.pageSize rfl
  · rw [SharedRemoval.after, hmade]
    have hnew : s.store.index.last + 1 ∉ s.underway :=
      fun hmem => Nat.not_succ_le_self _ (h.given _ hmem)
    refine ⟨h.wellFormed.draw, h.listed, h.pageSize, List.nodup_cons.2 ⟨hnew, h.nodup⟩,
      fun n hn => ?_, fun n hn e he => ?_⟩
    · rcases List.mem_cons.1 hn with rfl | hn
      · exact Nat.le_refl _
      · exact Nat.le_succ_of_le (h.given n hn)
    · rcases List.mem_cons.1 hn with rfl | hn
      · exact Nat.ne_of_lt (Nat.lt_succ_of_le (h.wellFormed.bounded e he))
      · exact h.unused n hn e he

theorem Sound.insert
    (h : Sound s)
    (id : Nat)
    (r : LinkRecord) :
    Sound (s.after (.insert id r)) := by
  rw [SharedRemoval.after]
  split
  · next hid =>
    refine ⟨h.wellFormed.insert (h.given id hid) r, h.listed, h.pageSize, h.nodup.erase id,
      fun n hn => h.given n (List.mem_of_mem_erase hn), fun n hn e he => ?_⟩
    obtain ⟨hne, hn⟩ := (List.Nodup.mem_erase_iff h.nodup).1 hn
    rcases Index.mem_insert.1 he with rfl | ⟨he, -⟩
    · exact hne.symm
    · exact h.unused n hn e he
  · exact h

/-- A record that is taken in at once is taken in under a number that is drawn in front of it. -/
theorem Sound.after_create
    (h : Sound s)
    (r : LinkRecord) :
    s.after (.create r) = (s.after .draw).after (.insert (s.store.index.last + 1) r) := by
  have hnew : s.store.index.last + 1 ∉ s.underway :=
    fun hmem => Nat.not_succ_le_self _ (h.given _ hmem)
  have hcreate : Fallible.access.create r s.store =
      Fallible.guarded .create (Fallible.onIndex (Index.access.create r)) s.store := rfl
  rw [after, after, after, hcreate, Fallible.draw, Fallible.guarded, Fallible.guarded]
  rcases takeFault .create s.store.faults with ⟨_ | fault, rest⟩
  · have hmade : (s.store.index.create r).2 =
        (s.store.index.draw.2.insert (s.store.index.last + 1) r).2 :=
      congrArg Prod.snd (h.wellFormed.create_eq r)
    simp [Fallible.onIndex, Step.onPart, Index.access, hmade, Index.draw]
  · simp [hnew]

theorem Sound.create
    (h : Sound s)
    (r : LinkRecord) :
    Sound (s.after (.create r)) := by
  rw [h.after_create]
  exact h.draw.insert _ r

/-- A job is taken up from saved progress, or left alone. -/
theorem restore_cases
    (s : SharedRemoval)
    (text : String)
    (pageSize : Nat) :
    s.after (.restore text pageSize) = s ∨
      ∃ progress, text ∈ s.saved ∧ Progress.ofText text = .ok progress ∧
        s.after (.restore text pageSize) =
          { s with job := .resume pageSize progress, loaded := none } := by
  rw [after]
  split
  · next htext =>
    cases hread : Progress.ofText text with
    | error e => exact Or.inl rfl
    | ok progress => exact Or.inr ⟨progress, htext, rfl, rfl⟩
  · exact Or.inl rfl

/-- A job is taken up from the progress that it has, or left alone. -/
theorem resume_cases
    (s : SharedRemoval)
    (pageSize : Nat) :
    s.after (.resume pageSize) = s ∨
      s.after (.resume pageSize) =
        { s with job := .resume pageSize s.job.progress, loaded := none } := by
  rw [after]
  cases hread : Progress.ofText s.job.progress.toText with
  | error e => exact Or.inl rfl
  | ok progress =>
      rw [Progress.eq_of_ofText_toText hread]
      exact Or.inr rfl

theorem Sound.after
    (h : Sound s)
    (event : Event) :
    Sound (s.after event) := by
  cases event with
  | page => exact h.page
  | load => exact h.load
  | process => exact h.process
  | run cancelled => exact after_run (fun _ ht => ht.page) h.dropped cancelled
  | create r => exact h.create r
  | draw => exact h.draw
  | insert id r => exact h.insert id r
  | update r => exact h.of_later (Fallible.later_update r s.store) h.pageSize rfl
  | delete ids => exact h.of_later (Fallible.later_delete ids s.store) h.pageSize rfl
  | arm faults => exact h.of_later (s.store.later_faults faults) h.pageSize rfl
  | save => exact h.of_later ⟨.refl _, rfl⟩ h.pageSize rfl
  | restore text pageSize =>
      rcases s.restore_cases text pageSize with heq | ⟨progress, -, -, heq⟩
      · rwa [heq]
      · rw [heq]
        exact h.of_later ⟨.refl _, rfl⟩ (Nat.le_max_right _ _) rfl
  | resume pageSize =>
      rcases s.resume_cases pageSize with heq | heq
      · rwa [heq]
      · rw [heq]
        exact h.of_later ⟨.refl _, rfl⟩ (Nat.le_max_right _ _) rfl

theorem Sound.afterAll
    (h : Sound s)
    (events : List Event) :
    Sound (s.afterAll events) :=
  afterAll_induction (P := fun _ t => Sound t) h (fun _ event ht => ht.after event) events

end SharedRemoval
end LinkLedger
