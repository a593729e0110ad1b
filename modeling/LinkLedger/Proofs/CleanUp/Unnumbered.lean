import LinkLedger.Proofs.Check.Interruption
import LinkLedger.Proofs.CleanUp.Emptying

/-!
# Records that are listed without their numbers

A storage may list records without the numbers that it has given them.  A removal takes away the
records of a page that it knows the numbers of, and its cursor goes to the last of these.

**Results.**
* `Access.showing`: a storage that tells the numbers of some records only.
* `deleted_cases`: what a page that is reported as removed has done.
* `Stuck.runFor_eq_none`: a removal goes on for ever where a record has no number.
* `runFor_showing`: where every record has its number nothing is different.
* `run_showing`: which removals come to an end.
* `checkPages_showing`: a check of all records, which goes by the same pages, always does.
-/

namespace LinkLedger

/-- A record as a storage lists it that tells the numbers of the `shown` records only. -/
def LinkRecord.listedBy (shown : LinkRecord → Bool) (r : LinkRecord) : LinkRecord :=
  if shown r then r else { r with id := none }

/-- Access whose pages tell the numbers of the `shown` records only. -/
def Access.showing {σ : Type} (a : Access σ) (shown : LinkRecord → Bool) : Access σ :=
  { a with
    page := fun after limit => do
      let page ← a.page after limit
      pure (page.map (·.listedBy shown)) }

variable {shown : LinkRecord → Bool}

/-- The numbers that a list of records tells are those of its shown records. -/
theorem filterMap_id_listedBy
    (shown : LinkRecord → Bool)
    (rs : List LinkRecord) :
    (rs.map (·.listedBy shown)).filterMap (·.id) = (rs.filter shown).filterMap (·.id) := by
  rw [List.filterMap_map, List.filterMap_filter]
  refine List.filterMap_congr fun r _ => ?_
  cases hr : shown r with
  | false => simp [LinkRecord.listedBy, hr]
  | true => simp [LinkRecord.listedBy, hr]

theorem map_listedBy_of_shown
    {rs : List LinkRecord}
    (h : ∀ r ∈ rs, shown r = true) :
    rs.map (·.listedBy shown) = rs := by
  refine (List.map_congr_left fun r hr => ?_).trans (List.map_id rs)
  rw [LinkRecord.listedBy, if_pos (h r hr), id]

namespace Access

variable {σ : Type} {a : Access σ} {after : Option Nat} {limit : Nat} {s s' : σ}

theorem showing_page_of_ok
    (shown : LinkRecord → Bool)
    {page : List LinkRecord}
    (h : a.page after limit s = (.ok page, s')) :
    (a.showing shown).page after limit s = (.ok (page.map (·.listedBy shown)), s') :=
  Step.bind_of_ok h

theorem showing_page_of_error
    (shown : LinkRecord → Bool)
    {text : String}
    (h : a.page after limit s = (.error text, s')) :
    (a.showing shown).page after limit s = (.error text, s') :=
  Step.bind_of_error h

end Access

namespace Removal

/-! ## Pages that are reported as removed -/

section Deleted

variable {p q : Progress} {st st' : Fallible} {page : List LinkRecord} {n : Nat}

/-- An empty page that is reported as removed has taken the cursor back to the front. -/
theorem deleted_of_nil
    (h : processLoaded Fallible.access p [] st = (.ok (.deleted n, q), st')) :
    n = 0 ∧ st'.index = st.index ∧ p.cursor ≠ none ∧ q.cursor = none := by
  obtain ⟨faults, -, ⟨-, failure, hfail⟩ | hlast⟩ := processLoaded_nil p st
  · rw [hfail] at h
    cases h
  · rw [hlast, atEmptyPage] at h
    split at h
    · cases h
    · split at h
      · cases h
      · next id hcursor =>
        cases h
        exact ⟨rfl, rfl, by simp [hcursor], rfl⟩

/-- A page of records that is reported as removed has removed those with a number. -/
theorem deleted_of_ne_nil
    (hne : page ≠ [])
    (h : processLoaded Fallible.access p page st = (.ok (.deleted n, q), st')) :
    st.index.delete (page.filterMap (·.id)) = (n, st'.index) ∧
      q = behindPage p (page.filterMap (·.id)) n := by
  obtain ⟨faults, -, ⟨-, failure, hfail⟩ | hremoved⟩ := processLoaded_of_ne_nil p st hne
  · rw [hfail] at h
    cases h
  · rw [hremoved] at h
    cases h
    exact ⟨rfl, rfl⟩

/-- The number of a shown record of a page is among those that are removed. -/
theorem delete_shown_pos
    {x : Index}
    (hx : x.WellFormed)
    {cursor : Option Nat}
    {size : Nat}
    {r : LinkRecord}
    (hr : r ∈ x.page cursor size)
    (hshows : shown r = true) :
    0 < (x.delete (((x.page cursor size).filter shown).filterMap (·.id))).1 := by
  obtain ⟨e, he, rfl⟩ := Index.mem_of_mem_page hr
  exact Index.delete_pos he
    (List.mem_filterMap.2 ⟨e.2, List.mem_filter.2 ⟨hr, hshows⟩, hx.numbered e he⟩)

/--
A page that is reported as removed has removed records, or has taken the cursor back to the front,
or has listed records none of which has a number.  In that case it has done nothing but count
itself.
-/
theorem deleted_cases
    {job job' : Removal}
    (hhidden : st.hidden = false)
    (hx : st.index.WellFormed)
    (h : job.next (Fallible.access.showing shown) st = ((.ok (.deleted n), job'), st')) :
    (1 ≤ n ∧ st'.index.count + n = st.index.count) ∨
      (n = 0 ∧ st'.index = st.index ∧ job.progress.cursor ≠ none ∧ job'.progress.cursor = none) ∨
      (n = 0 ∧ st'.index = st.index ∧
        st.index.page job.progress.cursor job.pageSize ≠ [] ∧
        (∀ r ∈ st.index.page job.progress.cursor job.pageSize, shown r = false) ∧
        job' = { job with progress := { job.progress with pages := job.progress.pages + 1 } }) := by
  obtain ⟨q, hprocess, rfl⟩ := exists_of_next_ok h
  have hopen : job.progress.finished = false := by
    refine Bool.eq_false_iff.2 fun hfinished => ?_
    rw [next_of_finished hfinished] at h
    cases h
  obtain ⟨rest, -, ⟨-, text, hfail⟩ | ⟨page, hload, hpage⟩⟩ :=
    Fallible.page_cases hhidden job.progress.cursor job.pageSize
  · rw [processPage_of_page_error hopen (Access.showing_page_of_error _ hfail)] at hprocess
    cases hprocess
  · rw [processPage_of_page_ok hopen (Access.showing_page_of_ok _ hload)] at hprocess
    change processLoaded Fallible.access _ _ _ = _ at hprocess
    by_cases hempty : page = []
    · subst hempty
      rw [List.map_nil] at hprocess
      obtain ⟨hzero, hindex, hcursor, hfront⟩ := deleted_of_nil hprocess
      exact Or.inr (Or.inl ⟨hzero, hindex, hcursor, hfront⟩)
    · have hfull : page = st.index.page job.progress.cursor job.pageSize :=
        hpage.resolve_right fun hnone => hempty hnone.2
      subst hfull
      obtain ⟨hdelete, rfl⟩ := deleted_of_ne_nil (mt List.map_eq_nil_iff.1 hempty) hprocess
      change st.index.delete _ = _ at hdelete
      rw [filterMap_id_listedBy] at hdelete ⊢
      by_cases hshown : ∃ r ∈ st.index.page job.progress.cursor job.pageSize, shown r = true
      · obtain ⟨r, hr, hshows⟩ := hshown
        have hpos := delete_shown_pos hx hr hshows
        have hcount := st.index.count_delete
          (((st.index.page job.progress.cursor job.pageSize).filter shown).filterMap (·.id))
        rw [hdelete] at hpos hcount
        exact Or.inl ⟨hpos, hcount⟩
      · have hnone : ∀ r ∈ st.index.page job.progress.cursor job.pageSize, shown r = false :=
          fun r hr => Bool.eq_false_iff.2 fun hshows => hshown ⟨r, hr, hshows⟩
        have hids : (st.index.page job.progress.cursor job.pageSize).filter shown = [] :=
          List.filter_eq_nil_iff.2 fun r hr => by simp [hnone r hr]
        rw [hids, List.filterMap_nil, Index.delete_nil] at hdelete
        obtain ⟨rfl, hindex⟩ := Prod.mk.inj hdelete
        refine Or.inr (Or.inr ⟨rfl, hindex.symm, hempty, hnone, ?_⟩)
        rw [hids]
        simp [behindPage]

end Deleted

/-! ## Runs -/

/-- A run that always finds another page to process never comes to an end. -/
theorem runFor_eq_none
    {σ : Type}
    {a : Access σ}
    {P : Removal → σ → Prop}
    (hstep : ∀ job s, P job s → job.progress.finished = false ∧
      ∃ outcome job' s', job.next a s = ((.ok outcome, job'), s') ∧ P job' s')
    {job : Removal}
    {s : σ}
    (h : P job s)
    (fuel : Nat) :
    (runFor a (fun _ => false) fuel job s).1.1 = none := by
  induction fuel generalizing job s with
  | zero => rfl
  | succ fuel ih =>
      obtain ⟨hopen, outcome, job', s', hnext, h'⟩ := hstep job s h
      rw [runFor_of_next hopen rfl hnext]
      exact ih h'

section Listed

variable {x : Index} {job : Removal}

theorem processPage_showing
    (shown : LinkRecord → Bool)
    (hopen : job.progress.finished = false)
    (x : Index) :
    processPage (Index.access.showing shown) job.pageSize job.progress x =
      processLoaded Index.access job.progress
        ((x.page job.progress.cursor job.pageSize).map (·.listedBy shown)) x :=
  processPage_of_page_ok hopen (Access.showing_page_of_ok shown rfl)

/-- A page of records of an index takes away the shown ones. -/
theorem next_showing_of_ne_nil
    (hopen : job.progress.finished = false)
    (hne : x.page job.progress.cursor job.pageSize ≠ []) :
    let ids := ((x.page job.progress.cursor job.pageSize).filter shown).filterMap (·.id)
    job.next (Index.access.showing shown) x =
      ((.ok (.deleted (x.delete ids).1),
          { job with progress := behindPage job.progress ids (x.delete ids).1 }),
        (x.delete ids).2) := by
  intro ids
  refine next_of_ok ?_
  rw [processPage_showing shown hopen,
    processLoaded_access_of_ne_nil job.progress (mt List.map_eq_nil_iff.1 hne),
    filterMap_id_listedBy]

/-- A page whose records are all shown is what it was. -/
theorem next_showing_of_shown
    (hshown : ∀ r ∈ x.page job.progress.cursor job.pageSize, shown r = true) :
    job.next (Index.access.showing shown) x = job.next Index.access x := by
  cases hopen : job.progress.finished with
  | true => rw [next_of_finished hopen, next_of_finished hopen]
  | false =>
      rw [next, next, processPage_showing shown hopen, processPage_access hopen,
        map_listedBy_of_shown hshown]

/-- A page of an index takes away nothing but shown records. -/
theorem mem_delete_of_hidden
    (hx : x.WellFormed)
    {e : Nat × LinkRecord}
    (he : e ∈ x.entries)
    (hhides : shown e.2 = false)
    (cursor : Option Nat)
    (size : Nat) :
    e ∈ (x.delete (((x.page cursor size).filter shown).filterMap (·.id))).2.entries := by
  rw [Index.entries_delete]
  refine List.mem_filter.2 ⟨he, ?_⟩
  rw [Bool.not_eq_true', List.contains_eq_mem, decide_eq_false_iff_not]
  intro hmem
  obtain ⟨r, hr, hid⟩ := List.mem_filterMap.1 hmem
  obtain ⟨hpage, hshows⟩ := List.mem_filter.1 hr
  obtain ⟨d, hd, rfl⟩ := Index.mem_of_mem_page hpage
  have hsame := hx.eq_of_id hd he (Option.some.inj ((hx.numbered d hd).symm.trans hid))
  rw [hsame, hhides] at hshows
  cases hshows

/-- A job that still has a record to remove which is listed without its number. -/
structure Stuck (shown : LinkRecord → Bool) (job : Removal) (x : Index) : Prop where
  wellFormed : x.WellFormed
  unfinished : job.progress.finished = false
  pageSize : 1 ≤ job.pageSize
  unnumbered : ∃ e ∈ x.entries, shown e.2 = false

/-- A page of a stuck job succeeds, and it leaves the job stuck. -/
theorem Stuck.next
    (h : Stuck shown job x) :
    ∃ outcome job' x',
      job.next (Index.access.showing shown) x = ((.ok outcome, job'), x') ∧
        Stuck shown job' x' := by
  obtain ⟨e, he, hhides⟩ := h.unnumbered
  by_cases hempty : x.page job.progress.cursor job.pageSize = []
  · cases hcursor : job.progress.cursor with
    | none =>
        rw [hcursor] at hempty
        have hcount := Index.count_of_page_eq_nil h.pageSize hempty
        exact absurd hcount (List.length_pos_of_mem he).ne'
    | some id =>
        have hcut := h.wellFormed.cut job.progress.cursor
        rw [Index.above_of_page_eq_nil h.pageSize hempty] at hcut
        have hpassed : x.passed job.progress.cursor ≠ [] := by
          intro hnone
          rw [hcut.entries, hnone] at he
          cases he
        have hnext : job.next Index.access x = _ :=
          next_of_passed h.unfinished hcursor hcut hpassed
        have hshown : ∀ r ∈ x.page job.progress.cursor job.pageSize, shown r = true := by
          rw [hempty]
          exact nofun
        exact ⟨_, _, _, (next_showing_of_shown hshown).trans hnext,
          h.wellFormed, h.unfinished, h.pageSize, e, he, hhides⟩
  · refine ⟨_, _, _, next_showing_of_ne_nil h.unfinished hempty, h.wellFormed.delete _,
      h.unfinished, h.pageSize, e, mem_delete_of_hidden h.wellFormed he hhides _ _, hhides⟩

/-- A removal does not come to an end where a record is listed without its number. -/
theorem Stuck.runFor_eq_none
    (h : Stuck shown job x)
    (fuel : Nat) :
    (runFor (Index.access.showing shown) (fun _ => false) fuel job x).1.1 = none :=
  Removal.runFor_eq_none (fun _ _ hstuck => ⟨hstuck.unfinished, hstuck.next⟩) h fuel

/-- A page of a removal puts no record into the index. -/
theorem next_subset
    (job : Removal)
    (x : Index) :
    (job.next Index.access x).2.entries ⊆ x.entries := by
  cases hopen : job.progress.finished with
  | true =>
      rw [next_of_finished hopen]
      exact List.Subset.refl _
  | false =>
      have hstate : (job.next Index.access x).2 =
          (processPage Index.access job.pageSize job.progress x).2 := by
        unfold next
        split
        · next heq => rw [heq]
        · next heq => rw [heq]
      rw [hstate, processPage_access hopen]
      by_cases hempty : x.page job.progress.cursor job.pageSize = []
      · rw [hempty, processLoaded_access_nil]
        exact List.Subset.refl _
      · rw [processLoaded_access_of_ne_nil job.progress hempty, Index.entries_delete]
        exact fun e he => (List.mem_filter.1 he).1

/-- Where every record is listed with its number, a removal is what it was. -/
theorem runFor_showing
    (hshown : ∀ r ∈ x.records, shown r = true)
    (fuel : Nat) :
    runFor (Index.access.showing shown) (fun _ => false) fuel job x =
      runFor Index.access (fun _ => false) fuel job x := by
  induction fuel generalizing job x with
  | zero => rfl
  | succ fuel ih =>
      have hsubset := next_subset job x
      have hpage : ∀ r ∈ x.page job.progress.cursor job.pageSize, shown r = true := by
        intro r hr
        obtain ⟨e, he, rfl⟩ := Index.mem_of_mem_page hr
        exact hshown e.2 (List.mem_map_of_mem he)
      rw [runFor, runFor, next_showing_of_shown hpage]
      rcases hnext : job.next Index.access x with ⟨⟨failure | outcome, job'⟩, x'⟩
      · rfl
      · rw [hnext] at hsubset
        have hshown' : ∀ r ∈ x'.records, shown r = true := fun r hr =>
          hshown r (List.map_subset _ hsubset hr)
        simp only [ih hshown']

/--
A page that a job reports as removed, of whatever storage, has removed records, or it has taken the
cursor back to the front, or it has listed records without a number only; in the last case it has
done nothing but count itself.  So a job that nothing disturbs removes everything if all records are
listed with their numbers, and if one is not it never comes to an end.
-/
theorem run_showing
    (hx : x.WellFormed)
    (shown : LinkRecord → Bool)
    (pageSize : Nat)
    {p : Progress}
    (hopen : p.finished = false) :
    (∀ contents faults n job' st',
      (resume pageSize p).next (Fallible.access.showing shown) ⟨x, contents, faults, false⟩ =
          ((.ok (.deleted n), job'), st') →
        (1 ≤ n ∧ st'.index.count + n = x.count) ∨
          (n = 0 ∧ st'.index = x ∧ p.cursor ≠ none ∧ job'.progress.cursor = none) ∨
          (n = 0 ∧ st'.index = x ∧ x.page p.cursor (max pageSize 1) ≠ [] ∧
            (∀ r ∈ x.page p.cursor (max pageSize 1), shown r = false) ∧
            job' = resume pageSize { p with pages := p.pages + 1 })) ∧
      ((∀ r ∈ x.records, shown r = true) → ∃ q : Progress, q.finished = true ∧
        (resume pageSize p).run (Index.access.showing shown) false x =
          ((some (.ok q), ⟨max pageSize 1, q⟩), { x with entries := [] })) ∧
      ((∃ r ∈ x.records, shown r = false) → ∀ fuel,
        (runFor (Index.access.showing shown) (fun _ => false) fuel (resume pageSize p) x).1.1 =
          none) := by
  have hsize : 1 ≤ max pageSize 1 := Nat.le_max_right _ _
  refine ⟨?_, ?_, ?_⟩
  · intro contents faults n job' st' hnext
    exact deleted_cases rfl hx hnext
  · intro hshown
    have hcut := hx.cut p.cursor
    have hrun := runFor_empties hx hopen hcut hsize (pages_le_rounds hcut hsize)
    exact ⟨_, rfl, (runFor_showing hshown _).trans hrun⟩
  · rintro ⟨r, hr, hhides⟩ fuel
    obtain ⟨e, he, rfl⟩ := List.mem_map.1 hr
    exact Stuck.runFor_eq_none ⟨hx, hopen, hsize, e, he, hhides⟩ fuel

/-- A record that is listed without its number, before and behind the removal of the other one. -/
theorem run_showing_first_only :
    let x := Index.empty.createAll (List.replicate 2 (.ofOccurrence "a" ⟨"node", "1"⟩ "see" "en"))
    (∃ job st, (start 1).next (Fallible.access.showing fun r => r.id == some 1)
        ⟨x, [], [], false⟩ = ((.ok (.deleted 1), job), st) ∧ st.index.count + 1 = x.count) ∧
      (∀ fuel, (runFor (Index.access.showing fun r => r.id == some 1) (fun _ => false) fuel
        (start 1) x).1.1 = none) ∧
      ∃ q, (start 1).run (Index.access.showing fun _ => true) false x =
        ((some (.ok q), ⟨1, q⟩), { x with entries := [] }) := by
  intro x
  have hx : x.WellFormed := Index.wellFormed_empty.createAll _
  obtain ⟨hpage, -, hstuck⟩ := run_showing hx (fun r => r.id == some 1) 1 (p := .initial) rfl
  obtain ⟨-, hall, -⟩ := run_showing hx (fun _ => true) 1 (p := .initial) rfl
  refine ⟨⟨_, _, rfl, ?_⟩, hstuck (by decide), ?_⟩
  · rcases hpage [] [] 1 _ _ rfl with hmoved | hswept | hrepeats
    · exact hmoved.2
    · exact absurd hswept.1 Nat.one_ne_zero
    · exact absurd hrepeats.1 Nat.one_ne_zero
  · obtain ⟨q, -, hrun⟩ := hall fun _ _ => rfl
    exact ⟨q, hrun⟩

/-- One record that is listed without its number: a page is reported as removed that has removed
nothing and left the cursor at the front, and no number of pages finishes the job. -/
theorem run_hidden_stays :
    let st : Fallible :=
      ⟨(Index.empty.create (.ofOccurrence "a" ⟨"node", "1"⟩ "see" "en")).2, [], [], true⟩
    (start 1).next Fallible.access st = ((.ok (.deleted 0), ⟨1, ⟨none, 1, 0, false⟩⟩), st) ∧
      ∀ fuel, (runFor Fallible.access (fun _ => false) fuel (start 1) st).1.1 = none := by
  intro st
  have hstep : ∀ job s, (s = st ∧ ∃ k, job = Removal.mk 1 ⟨none, k, 0, false⟩) →
      job.progress.finished = false ∧ ∃ outcome job' s',
        job.next Fallible.access s = ((.ok outcome, job'), s') ∧
          s' = st ∧ ∃ k, job' = Removal.mk 1 ⟨none, k, 0, false⟩ := by
    rintro _ _ ⟨rfl, k, rfl⟩
    exact ⟨rfl, _, _, _, rfl, rfl, k + 1, rfl⟩
  exact ⟨rfl, runFor_eq_none hstep ⟨rfl, 0, rfl⟩⟩

end Listed

end Removal

namespace Check

variable {σ τ : Type} {shown : LinkRecord → Bool}

/-- Records are written back by the numbers that they come with. -/
theorem writeBack_showing
    (a : Access σ)
    (shown : LinkRecord → Bool)
    (rs : List LinkRecord) :
    writeBack (a.showing shown) rs = writeBack a rs := by
  induction rs with
  | nil => rfl
  | cons r rs ih =>
      rw [writeBack, writeBack, ih]
      rfl

theorem checkLinks_showing
    (a : Access σ)
    (shown : LinkRecord → Bool)
    (fetch : Fetcher σ)
    (course : Course σ)
    (timeout : Nat)
    (rs : List LinkRecord) :
    checkLinks (a.showing shown) fetch course timeout rs = checkLinks a fetch course timeout rs := by
  simp only [checkLinks, writeBack_showing]

/-- A record that is the last of a page with a number was listed with that number. -/
theorem getLast?_of_listedBy
    {rs : List LinkRecord}
    {last : LinkRecord}
    {id : Nat}
    (hlast : (rs.map (·.listedBy shown)).getLast? = some last)
    (hid : last.id = some id) :
    ∃ r ∈ rs, r.id = some id := by
  obtain ⟨r, hr, rfl⟩ := List.mem_map.1 (List.mem_of_getLast? hlast)
  refine ⟨r, hr, ?_⟩
  unfold LinkRecord.listedBy at hid
  split at hid
  · exact hid
  · cases hid

/--
A check of all records comes to an end also where records are listed without their numbers: what is
above its cursor gets less with every page, and it stops at a page whose last record has no number.
So it is the same with any number of rounds that exceeds that of the records above its cursor.
-/
theorem checkPages_showing
    (fetch : Fetcher τ)
    (course : Course (World τ))
    (timeout limit : Nat)
    {w : World τ}
    (hx : w.store.index.WellFormed)
    (hlisted : w.store.hidden = false)
    {cursor : Option Nat}
    (summary : CheckSummary)
    {fuel more : Nat}
    (hfuel : (w.store.index.above cursor).length < fuel)
    (hmore : fuel ≤ more) :
    checkPages ((World.access τ).showing shown) (fetch.observed Fallible) course timeout limit more
        cursor summary w =
      checkPages ((World.access τ).showing shown) (fetch.observed Fallible) course timeout limit
        fuel cursor summary w := by
  -- The induction is on the rounds that are sure to be left; a page that is not the last one of
  -- the check takes its cursor to a record that it lists.
  induction fuel generalizing more w cursor summary with
  | zero => omega
  | succ fuel ih =>
      obtain ⟨more, rfl⟩ := Nat.exists_eq_add_one_of_ne_zero (show more ≠ 0 by omega)
      rw [checkPages, checkPages]
      rcases hpage : (World.access τ).page cursor limit w with ⟨text | page, w'⟩
      · have hload := Step.mapFailure_of_error (f := Failure.storage)
          (Access.showing_page_of_error shown hpage)
        rw [Step.bind_of_error hload, Step.bind_of_error hload]
      · have hload := Step.mapFailure_of_ok (f := Failure.storage)
          (Access.showing_page_of_ok shown hpage)
        rw [Step.bind_of_ok hload, Step.bind_of_ok hload]
        obtain ⟨-, -, -, hview⟩ := World.writes_page (P := fun _ _ => True) hlisted cursor limit
          (Step.mapFailure_of_ok hpage)
        obtain ⟨hentries, hindex, -, hlisted'⟩ := hview page rfl
        cases hlast : (page.map (·.listedBy shown)).getLast? with
        | none => rfl
        | some last =>
            dsimp only
            rw [checkLinks_showing]
            rcases hcheck : checkLinks (World.access τ) (fetch.observed Fallible) course timeout
                (page.map (·.listedBy shown)) w' with ⟨failure | results, w''⟩
            · rw [Step.bind_of_error hcheck, Step.bind_of_error hcheck]
            · rw [Step.bind_of_ok hcheck, Step.bind_of_ok hcheck]
              obtain ⟨⟨marks, -, -, hwritten⟩, hhidden, -⟩ :=
                writes_checkLinks fetch course timeout _ hcheck
              cases hid : last.id with
              | none => rfl
              | some id =>
                  obtain ⟨r, hr, hnumber⟩ := getLast?_of_listedBy hlast hid
                  have hstored : r ∈ w.store.index.page cursor limit :=
                    hentries.elim (fun hfull => hfull ▸ hr)
                      fun hnil => absurd hr (hnil ▸ List.not_mem_nil)
                  rw [hindex] at hwritten
                  have hless := hx.length_above_of_mem_page hstored hnumber hwritten.keys
                  exact ih (hwritten.wellFormed hx fun _ _ => id_of_markOf)
                    (hhidden.trans hlisted') _ (by omega) (by omega)

end Check
end LinkLedger
