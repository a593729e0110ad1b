import LinkLedger.Proofs.Check.Paging
import LinkLedger.Proofs.Index.Written
import LinkLedger.Proofs.Service.Operations

/-!
# Checks that stop half way

A check writes its records back one by one, and page by page if it checks all of them.  When the
index refuses a call, what has been written stays: the records in the journal are marked, each by
what was found of its link, and all others are as they were.  A second check counts the failures of
the marked records once more.

**Results.**
* `World.Writes`: a step that writes admitted records only and notes each of them in the journal.
  It is closed under sequence, and the calls of a check are such steps.
* `writes_checkLinks`: a check of records writes them marked, each under its number.
* `writes_checkPages`: a check of all records marks them as they were at the start, on whatever page
  they stand.
* `failed_check`: what a failed check leaves behind, and what a second check then counts.
-/

namespace LinkLedger

variable {τ α β : Type}

namespace World

/-- What a step has done to the index of a world: it has written records that `P` admits, and the
journal says under which numbers. -/
def Wrote (P : Nat → LinkRecord → Prop) (w w' : World τ) : Prop :=
  ∃ more, w'.deeds = w.deeds ++ more ∧ (∀ id ∈ Deed.updates more, ∃ r, P id r) ∧
    w.store.index.WrittenAt P (Deed.updates more) w'.store.index

/-- A step that writes records that `P` admits, and fails only if the index refuses a call.  What it
gives, if it succeeds, satisfies `Q`. -/
def Writes (P : Nat → LinkRecord → Prop) (w : World τ) (step : Step Failure (World τ) α)
    (Q : α → World τ → Prop) : Prop :=
  ∀ ⦃result w'⦄, step w = (result, w') →
    w.Wrote P w' ∧ w'.store.hidden = w.store.hidden ∧
      (∀ e, result = .error e → ∃ text, e = .storage text) ∧ ∀ a, result = .ok a → Q a w'

variable {P P' : Nat → LinkRecord → Prop} {w w' w'' : World τ}
variable {step : Step Failure (World τ) α} {Q : α → World τ → Prop}

theorem Wrote.of_index_eq
    (hindex : w'.store.index = w.store.index)
    (hdeeds : w'.deeds = w.deeds) :
    w.Wrote P w' := by
  refine ⟨[], ?_, nofun, ?_⟩
  · rw [hdeeds, List.append_nil]
  · rw [hindex]
    exact .refl _

theorem Wrote.mono
    (h : w.Wrote P w')
    (hP : ∀ id r, P id r → P' id r) :
    w.Wrote P' w' := by
  obtain ⟨more, hdeeds, hadmitted, hwritten⟩ := h
  refine ⟨more, hdeeds, fun id hid => ?_, hwritten.mono hP⟩
  obtain ⟨r, hr⟩ := hadmitted id hid
  exact ⟨r, hP id r hr⟩

theorem Wrote.trans
    (h : w.Wrote P w')
    (h' : w'.Wrote P w'') :
    w.Wrote P w'' := by
  obtain ⟨more, hdeeds, hadmitted, hwritten⟩ := h
  obtain ⟨more', hdeeds', hadmitted', hwritten'⟩ := h'
  refine ⟨more ++ more', ?_, ?_, ?_⟩
  · rw [hdeeds', hdeeds, List.append_assoc]
  · intro id hid
    rw [Deed.updates_append] at hid
    rcases List.mem_append.1 hid with hid | hid
    · exact hadmitted id hid
    · exact hadmitted' id hid
  · rw [Deed.updates_append]
    exact hwritten.trans hwritten'

/-! ## Sequences of steps -/

theorem Writes.of_ok
    {a : α}
    (h : step w = (.ok a, w'))
    (hwrote : w.Wrote P w')
    (hhidden : w'.store.hidden = w.store.hidden)
    (hq : Q a w') :
    w.Writes P step Q := by
  intro result w'' hstep
  cases h.symm.trans hstep
  refine ⟨hwrote, hhidden, nofun, fun b hb => ?_⟩
  cases hb
  exact hq

theorem Writes.of_error
    {text : String}
    (h : step w = (.error (.storage text), w'))
    (hwrote : w.Wrote P w')
    (hhidden : w'.store.hidden = w.store.hidden) :
    w.Writes P step Q := by
  intro result w'' hstep
  cases h.symm.trans hstep
  refine ⟨hwrote, hhidden, fun e he => ?_, nofun⟩
  cases he
  exact ⟨text, rfl⟩

theorem Writes.pure
    {a : α}
    (hq : Q a w) :
    w.Writes P (pure a) Q :=
  .of_ok rfl (.of_index_eq rfl rfl) rfl hq

/-- A step may be taken for one that writes more; what it really writes stays known behind it. -/
theorem Writes.widen
    (h : w.Writes P step Q)
    (hP : ∀ id r, P id r → P' id r) :
    w.Writes P' step fun a w' => Q a w' ∧ w.Wrote P w' ∧ w'.store.hidden = w.store.hidden := by
  intro result w' hstep
  obtain ⟨hwrote, hhidden, herror, hq⟩ := h hstep
  exact ⟨hwrote.mono hP, hhidden, herror, fun a ha => ⟨hq a ha, hwrote, hhidden⟩⟩

theorem Writes.bind
    {next : α → Step Failure (World τ) β}
    {R : β → World τ → Prop}
    (hstep : w.Writes P step Q)
    (hnext : ∀ a w', Q a w' → w'.Writes P (next a) R) :
    w.Writes P (step >>= next) R := by
  intro result w'' hboth
  rcases h : step w with ⟨e | a, w'⟩
  · obtain ⟨hwrote, hhidden, herror, -⟩ := hstep h
    obtain ⟨text, rfl⟩ := herror e rfl
    exact Writes.of_error (Step.bind_of_error h) hwrote hhidden hboth
  · obtain ⟨hwrote, hhidden, -, hq⟩ := hstep h
    rw [Step.bind_of_ok h] at hboth
    obtain ⟨hwrote', hhidden', herror, hr⟩ := hnext a w' (hq a rfl) hboth
    exact ⟨hwrote.trans hwrote', hhidden'.trans hhidden, herror, hr⟩

/-! ## Calls -/

theorem writes_ofView
    (f : World τ → α) :
    w.Writes P (Step.ofView f) fun _ w' => w' = w :=
  .of_ok rfl (.of_index_eq rfl rfl) rfl rfl

/-- A page is that of the index, or it is empty. -/
theorem writes_page
    (hshown : w.store.hidden = false)
    (after : Option Nat)
    (limit : Nat) :
    w.Writes P (((access τ).page after limit).mapFailure .storage) fun page w' =>
      (page = w.store.index.page after limit ∨ page = []) ∧ w'.store.index = w.store.index ∧
        w'.deeds = w.deeds ∧ w'.store.hidden = false := by
  obtain ⟨rest, -, ⟨-, text, hfail⟩ | ⟨page, hmade, hpage⟩⟩ :=
    Fallible.page_cases hshown after limit
  · exact .of_error (Step.mapFailure_of_error (Observed.unwritten_of_eq hfail))
      (.of_index_eq rfl rfl) rfl
  · exact .of_ok (Step.mapFailure_of_ok (Observed.unwritten_of_eq hmade)) (.of_index_eq rfl rfl)
      rfl ⟨hpage.imp_right And.right, rfl, rfl, hshown⟩

/-- An update writes its record, or it is refused and changes nothing. -/
theorem writes_update
    {r : LinkRecord}
    {id : Nat}
    (hid : r.id = some id)
    (hP : P id r) :
    w.Writes P (((access τ).update r).mapFailure .storage) fun _ _ => True := by
  obtain ⟨rest, ⟨text, hfail⟩ | ⟨y, hupdate, hdone⟩⟩ := Fallible.update_cases r w.store
  · exact .of_error (Step.mapFailure_of_error (Observed.written_of_error hfail))
      (.of_index_eq rfl rfl) rfl
  · have hnoted : Deed.updates [.updated r] = [id] := by
      simp [Deed.updates, hid]
    refine .of_ok (Step.mapFailure_of_ok (Observed.written_of_ok hdone))
      ⟨[.updated r], rfl, ?_, ?_⟩ rfl trivial
    · intro i hi
      rw [hnoted, List.mem_singleton] at hi
      exact ⟨r, hi ▸ hP⟩
    · rw [hnoted]
      exact Index.writtenAt_update hid hP hupdate

end World

/-! ## Checks -/

namespace Check

variable {w : World τ}

/-- The records that a check may write under a number: marked by what is fetched of their links. -/
def MarkOf (fetch : Fetcher τ) (timeout : Nat) (records : List LinkRecord) (id : Nat)
    (marked : LinkRecord) : Prop :=
  ∃ r ∈ records, r.id = some id ∧
    ∃ web now, marked = mark now (fetchOne fetch timeout r.url web).1 r

theorem id_of_markOf
    {fetch : Fetcher τ}
    {timeout : Nat}
    {records : List LinkRecord}
    {id : Nat}
    {r : LinkRecord}
    (h : MarkOf fetch timeout records id r) :
    r.id = some id := by
  obtain ⟨q, -, hid, web, now, rfl⟩ := h
  exact hid

theorem writes_writeBack
    {P : Nat → LinkRecord → Prop}
    {rs : List LinkRecord}
    (h : ∀ r ∈ rs, ∀ id, r.id = some id → P id r) :
    w.Writes P (writeBack (World.access τ) rs) fun _ _ => True := by
  induction rs generalizing w with
  | nil => exact .pure trivial
  | cons r rs ih =>
      have hrest : ∀ w' : World τ, w'.Writes P (writeBack (World.access τ) rs) fun _ _ => True :=
        fun w' => ih fun q hq => h q (List.mem_cons_of_mem r hq)
      unfold writeBack
      cases hid : r.id with
      | none => exact hrest w
      | some id =>
          exact (World.writes_update hid (h r List.mem_cons_self id hid)).bind
            fun _ w' _ => hrest w'

/-- Fetching writes nothing. -/
theorem writes_fetchAll
    {P : Nat → LinkRecord → Prop}
    (fetch : Fetcher τ)
    (timeout : Nat)
    (urls : List String) :
    w.Writes P (ExceptT.lift (fetchAll (fetch.observed Fallible) timeout urls)) fun results _ =>
      ∀ result ∈ results, ∃ web, result = (fetchOne fetch timeout result.url web).1 := by
  have hfetch : (ExceptT.lift (fetchAll (fetch.observed Fallible) timeout urls) :
      Step Failure (World τ) _) w =
        (.ok (fetchAll fetch timeout urls w.web).1,
          { w with web := (fetchAll fetch timeout urls w.web).2 }) :=
    congrArg (fun p : List CheckResult × World τ => (Except.ok p.1, p.2))
      (fetchAll_beside fetch timeout urls w)
  exact .of_ok hfetch (.of_index_eq rfl rfl) rfl fun result hresult =>
    exists_fetchOne_of_mem hresult

/-- A check of records writes them marked, each under its number. -/
theorem writes_checkLinks
    (fetch : Fetcher τ)
    (course : Course (World τ))
    (timeout : Nat)
    (records : List LinkRecord) :
    w.Writes (MarkOf fetch timeout records)
      (checkLinks (World.access τ) (fetch.observed Fallible) course timeout records)
      fun _ _ => True := by
  refine (World.writes_ofView _).bind ?_
  rintro urls _ rfl
  refine (writes_fetchAll fetch timeout urls).bind ?_
  intro results w' hfetched
  refine (World.writes_ofView _).bind ?_
  rintro now _ rfl
  refine (writes_writeBack fun q hq id hid => ?_).bind fun _ _ _ => .pure trivial
  obtain ⟨result, hresult, hq⟩ := List.mem_flatMap.1 hq
  obtain ⟨r, hr, rfl⟩ := List.mem_map.1 hq
  obtain ⟨hmem, hurl⟩ := List.mem_filter.1 hr
  obtain ⟨web, heq⟩ := hfetched result hresult
  rw [← beq_iff_eq.1 hurl] at heq
  exact ⟨r, hmem, hid, web, now, heq ▸ rfl⟩

/-! ## Checks of all records -/

variable {fetch : Fetcher τ} {timeout : Nat} {x : Index} {cursor : Option Nat}

/-- What a check of all records of an index has come to at a cursor: it has written marked records,
and all of their numbers lie in front of the cursor or at it. -/
structure Reached (fetch : Fetcher τ) (timeout : Nat) (x : Index) (cursor : Option Nat)
    (w : World τ) : Prop where
  shown : w.store.hidden = false
  written : x.WrittenAt (MarkOf fetch timeout x.records) (Deed.updates w.deeds) w.store.index
  passed : ∀ id ∈ Deed.updates w.deeds, ∃ reached ∈ cursor, id ≤ reached

theorem Reached.wellFormed
    (h : Reached fetch timeout x cursor w)
    (hx : x.WellFormed) :
    w.store.index.WellFormed :=
  h.written.wellFormed hx fun _ _ => id_of_markOf

/-- Behind the cursor stands what stood there at the start. -/
theorem Reached.mem_of_mem_page
    (h : Reached fetch timeout x cursor w)
    {limit : Nat}
    {r : LinkRecord}
    (hr : r ∈ w.store.index.page cursor limit) :
    r ∈ x.records := by
  obtain ⟨e, he, rfl⟩ := List.mem_map.1 hr
  obtain ⟨hmem, hbehind⟩ := List.mem_filter.1 (List.mem_of_mem_take he)
  refine List.mem_map_of_mem (h.written.mem_of_not_mem hmem fun hid => ?_)
  obtain ⟨reached, rfl, hle⟩ := h.passed e.1 hid
  have hlt : reached < e.1 := by simpa using hbehind
  omega

/-- The last record of a page has the largest number in it, and one behind the cursor. -/
theorem page_last
    (hx : x.WellFormed)
    {limit : Nat}
    {last : LinkRecord}
    (hlast : (x.page cursor limit).getLast? = some last) :
    ∃ id, last.id = some id ∧ (∀ reached ∈ cursor, reached < id) ∧
      ∀ r ∈ x.page cursor limit, ∀ i, r.id = some i → i ≤ id := by
  have hsorted := (hx.ascending.filter fun e => cursor.all fun id => decide (id < e.1)).sublist
    (List.take_sublist limit _)
  have hstored : ∀ e ∈ (x.entries.filter fun e => cursor.all fun id => decide (id < e.1)).take limit,
      e ∈ x.entries ∧ (cursor.all fun id => decide (id < e.1)) = true :=
    fun e he => List.mem_filter.1 (List.mem_of_mem_take he)
  rw [Index.page] at hlast ⊢
  generalize (x.entries.filter _).take limit = es at hlast hsorted hstored ⊢
  rw [List.getLast?_map, Option.map_eq_some_iff] at hlast
  obtain ⟨e, he, rfl⟩ := hlast
  obtain ⟨init, rfl⟩ := List.getLast?_eq_some_iff.1 he
  obtain ⟨hmem, hbehind⟩ := hstored e (by simp)
  refine ⟨e.1, hx.numbered e hmem, ?_, ?_⟩
  · rintro reached rfl
    simpa using hbehind
  · intro r hr i hi
    obtain ⟨d, hd, rfl⟩ := List.mem_map.1 hr
    have hnumber : d.1 = i := Option.some.inj ((hx.numbered d (hstored d hd).1).symm.trans hi)
    rw [← hnumber]
    rcases List.mem_append.1 hd with hd | hd
    · exact Nat.le_of_lt ((List.pairwise_append.1 hsorted).2.2 d hd e (List.mem_singleton.2 rfl))
    · obtain rfl := List.mem_singleton.1 hd
      exact Nat.le_refl _

/-- A check of a page takes the cursor to its last record. -/
theorem Reached.advance
    (h : Reached fetch timeout x cursor w)
    (hx : x.WellFormed)
    {limit : Nat}
    {last : LinkRecord}
    (hlast : (w.store.index.page cursor limit).getLast? = some last)
    {w' : World τ}
    (hwrote : w.Wrote (MarkOf fetch timeout (w.store.index.page cursor limit)) w')
    (hshown : w'.store.hidden = false) :
    Reached fetch timeout x last.id w' := by
  obtain ⟨id, hid, hbehind, hmost⟩ := page_last (h.wellFormed hx) hlast
  obtain ⟨more, hdeeds, hadmitted, hwritten⟩ := hwrote
  refine ⟨hshown, ?_, ?_⟩
  · rw [hdeeds, Deed.updates_append]
    refine h.written.trans (hwritten.mono ?_)
    rintro i marked ⟨r, hr, hmarked⟩
    exact ⟨r, h.mem_of_mem_page hr, hmarked⟩
  · intro i hi
    rw [hid]
    refine ⟨id, rfl, ?_⟩
    rw [hdeeds, Deed.updates_append] at hi
    rcases List.mem_append.1 hi with hi | hi
    · obtain ⟨reached, hreached, hle⟩ := h.passed i hi
      exact Nat.le_trans hle (Nat.le_of_lt (hbehind reached hreached))
    · obtain ⟨marked, r, hr, hnumber, -⟩ := hadmitted i hi
      exact hmost r hr i hnumber

/-- A check from a cursor on marks records as they were at the start, and writes nothing else. -/
theorem writes_checkPages
    (hx : x.WellFormed)
    (course : Course (World τ))
    (limit fuel : Nat)
    (summary : CheckSummary)
    (h : Reached fetch timeout x cursor w) :
    w.Writes (MarkOf fetch timeout x.records)
      (checkPages (World.access τ) (fetch.observed Fallible) course timeout limit fuel cursor summary)
      fun _ _ => True := by
  -- The induction is on the rounds left: a page lies behind the cursor, where nothing has been
  -- written, and checking it takes the cursor to its end.
  induction fuel generalizing w cursor summary with
  | zero => exact .pure trivial
  | succ fuel ih =>
      unfold checkPages
      refine (World.writes_page h.shown cursor limit).bind ?_
      rintro page w' ⟨hpage, hindex, hdeeds, hshown⟩
      have hreached : Reached fetch timeout x cursor w' := by
        refine ⟨hshown, ?_, ?_⟩
        · rw [hdeeds, hindex]
          exact h.written
        · rw [hdeeds]
          exact h.passed
      cases hlast : page.getLast? with
      | none => exact .pure trivial
      | some last =>
          have hfull : page = w'.store.index.page cursor limit := by
            rcases hpage with rfl | rfl
            · rw [hindex]
            · cases hlast
          subst hfull
          have hmarks : ∀ id r, MarkOf fetch timeout (w'.store.index.page cursor limit) id r →
              MarkOf fetch timeout x.records id r := by
            rintro id marked ⟨r, hr, hmarked⟩
            exact ⟨r, hreached.mem_of_mem_page hr, hmarked⟩
          refine ((writes_checkLinks fetch course timeout _).widen hmarks).bind ?_
          rintro results w'' ⟨-, hwrote, hhidden⟩
          dsimp only
          split
          · exact .pure trivial
          · exact ih _ (hreached.advance hx hlast hwrote (hhidden.trans hshown))

/-! ## What is left behind -/

/-- What a failed check of records leaves behind: the index has refused a call, the records in the
journal are marked, and the others are as they were.  So is the whole index if nothing had been
written. -/
structure LeftBehind (fetch : Fetcher τ) (timeout : Nat) (records : List LinkRecord) (x : Index)
    (e : Failure) (w : World τ) : Prop where
  refused : ∃ text, e = .storage text
  written : x.WrittenAt (MarkOf fetch timeout records) (Deed.updates w.deeds) w.store.index
  untouched : Deed.updates w.deeds = [] → w.store.index = x

theorem leftBehind_of_writes
    {records : List LinkRecord}
    {step : Step Failure (World τ) α}
    {Q : α → World τ → Prop}
    {st : Fallible}
    {web : τ}
    {e : Failure}
    (h : World.Writes (MarkOf fetch timeout records) ⟨st, [], web⟩ step Q)
    (hfailed : step ⟨st, [], web⟩ = (.error e, w)) :
    LeftBehind fetch timeout records st.index e w := by
  obtain ⟨⟨more, hdeeds, -, hwritten⟩, -, hrefused, -⟩ := h hfailed
  rw [List.nil_append] at hdeeds
  rw [← hdeeds] at hwritten
  refine ⟨hrefused e rfl, hwritten, fun hnone => ?_⟩
  rw [hnone] at hwritten
  exact hwritten.eq_of_nil

/-- The failures counted of a record by a second check: twice if the first one had written it. -/
def countedAgain (answer : String → CheckResult) (ids : List Nat) (d : Nat × LinkRecord) : Nat :=
  if (answer (fetchable d.2.url)).isOk then 0
  else d.2.failCount + if d.1 ∈ ids then 2 else 1

/-- A record in a place that a failed check has come to is counted by the next one. -/
theorem failCount_of_checkedBy
    {answer : String → CheckResult}
    (hsteady : ∀ url web, (fetch url timeout web).1 = answer url)
    (hx : x.WellFormed)
    {ids : List Nat}
    {d e : Nat × LinkRecord}
    {r : LinkRecord}
    (hd : d ∈ x.entries)
    (hentry : Index.EntryWritten (MarkOf fetch timeout x.records) ids d e)
    (hchecked : e.2.CheckedBy answer r) :
    r.failCount = countedAgain answer ids d := by
  rw [hchecked.failCount, countedAgain]
  by_cases hid : d.1 ∈ ids
  · obtain ⟨q, hq, hnumber, web, now, hmarked⟩ := hentry.written hid
    obtain ⟨c, hc, rfl⟩ := List.mem_map.1 hq
    have hsame : c.1 = d.1 := Option.some.inj ((hx.numbered c hc).symm.trans hnumber)
    rw [hx.eq_of_id hc hd hsame] at hmarked
    have hok : (fetchOne fetch timeout d.2.url web).1.isOk = (answer (fetchable d.2.url)).isOk := by
      rw [← hsteady (fetchable d.2.url) web]
      rfl
    rw [hmarked, if_pos hid]
    change (if (answer (fetchable d.2.url)).isOk then 0
      else (if (fetchOne fetch timeout d.2.url web).1.isOk then 0 else d.2.failCount + 1) + 1) = _
    rw [hok]
    split_ifs with hgood
    · rfl
    · rfl
  · rw [hentry.kept hid, if_neg hid]

/-- Checking an index behind a failed check counts the failures of each record once more. -/
theorem checkAll_again
    {answer : String → CheckResult}
    (hsteady : ∀ url web, (fetch url timeout web).1 = answer url)
    (hx : x.WellFormed)
    {ids : List Nat}
    {y : Index}
    (hy : x.WrittenAt (MarkOf fetch timeout x.records) ids y)
    {course : Course (Observed Index τ)}
    (hfair : course.Fair)
    (pageSize : Nat)
    (web : τ) :
    ∃ summary o,
      checkAll (Index.access.observed τ) (fetch.observed Index) course timeout pageSize
          ⟨y, [], web⟩ = (.ok summary, o) ∧
        List.Forall₂ (fun d f => f.1 = d.1 ∧ f.2.failCount = countedAgain answer ids d)
          x.entries o.store.entries := by
  have hy' : y.WellFormed := hy.wellFormed hx fun _ _ => id_of_markOf
  have hsplit : y.entries = [] ++ y.entries := rfl
  obtain ⟨summary, marked, deeds, web', hpages, hmarked, -⟩ :=
    checkPages_observed hsteady hfair (Nat.le_max_right pageSize 1) hy' hsplit [] web ⟨0, 0, 0⟩
  refine ⟨summary, _, hpages (y.count + 1) (Nat.lt_succ_self _), ?_⟩
  refine forall₂_comp hy.entries hmarked fun d hd e f hentry hchecked => ?_
  exact ⟨hchecked.1.trans hentry.number,
    failCount_of_checkedBy hsteady hx hd hentry hchecked.2⟩

/--
A check that fails leaves behind what it has written: the records in the journal are marked, and
all others are as they were, so the index is untouched if nothing had been written.  A check of all
records that is made again when nothing fails any more counts the failures of the records in the
journal a second time, and those of the others once.
-/
theorem failed_check
    (fetch : Fetcher τ)
    (course : Course (World τ))
    (timeout : Nat)
    (st : Fallible)
    (hshown : st.hidden = false)
    (hx : st.index.WellFormed)
    (web : τ) :
    (∀ records e w,
      checkLinks (World.access τ) (fetch.observed Fallible) course timeout records
          ⟨st, [], web⟩ = (.error e, w) →
        LeftBehind fetch timeout records st.index e w) ∧
    (∀ pageSize e w,
      checkAll (World.access τ) (fetch.observed Fallible) course timeout pageSize
          ⟨st, [], web⟩ = (.error e, w) →
        LeftBehind fetch timeout st.index.records st.index e w ∧
        ∀ (answer : String → CheckResult) (again : Course (Observed Index τ)),
          (∀ url web, (fetch url timeout web).1 = answer url) → again.Fair →
          ∀ pageSize' web', ∃ summary o,
            checkAll (Index.access.observed τ) (fetch.observed Index) again timeout pageSize'
                ⟨w.store.index, [], web'⟩ = (.ok summary, o) ∧
              List.Forall₂
                (fun d f => f.1 = d.1 ∧
                  f.2.failCount = countedAgain answer (Deed.updates w.deeds) d)
                st.index.entries o.store.entries) := by
  constructor
  · intro records e w hfailed
    exact leftBehind_of_writes (writes_checkLinks fetch course timeout records) hfailed
  · intro pageSize e w hfailed
    have hstart : Reached fetch timeout st.index none (⟨st, [], web⟩ : World τ) :=
      ⟨hshown, .refl _, nofun⟩
    have hleft := leftBehind_of_writes
      (writes_checkPages hx course (max pageSize 1) (st.index.count + 1) ⟨0, 0, 0⟩ hstart) hfailed
    refine ⟨hleft, fun answer again hsteady hfair pageSize' web' => ?_⟩
    exact checkAll_again hsteady hx hleft.written hfair pageSize' web'

/-- Two records of one broken link, the second of which cannot be written: the index is not where it
was, and a second check counts the failure of the first record twice. -/
theorem failed_check_moves_index :
    let x := ((Index.empty.create (.ofOccurrence "//a" ⟨"node", "1"⟩ "see" "en")).2.create
      (.ofOccurrence "//a" ⟨"node", "2"⟩ "see" "en")).2
    let fetch : Fetcher Unit := fun url _ web => (⟨url, .broken, none, none⟩, web)
    let failed := checkAll (World.access Unit) (fetch.observed Fallible) (⟨0, 0, 0⟩ : Timestamp)
      1000 50 ⟨⟨x, [], [⟨.update, some "disk full", 1⟩], false⟩, [], ()⟩
    let again := checkAll (Index.access.observed Unit) (fetch.observed Index)
      (⟨0, 0, 0⟩ : Timestamp) 1000 50 ⟨failed.2.store.index, [], ()⟩
    let undisturbed := checkAll (Index.access.observed Unit) (fetch.observed Index)
      (⟨0, 0, 0⟩ : Timestamp) 1000 50 ⟨x, [], ()⟩
    (∃ w, failed = (.error (.storage "disk full"), w) ∧ w.store.index ≠ x) ∧
      again.2.store.records.map (·.failCount) = [2, 1] ∧
      undisturbed.2.store.records.map (·.failCount) = [1, 1] := by
  intro x fetch failed again undisturbed
  refine ⟨⟨_, rfl, ?_⟩, ?_, ?_⟩
  · decide
  · decide
  · decide

/-- What is left of the same check: the first record is in the journal, and it is counted again. -/
theorem failed_check_between_updates :
    let x := ((Index.empty.create (.ofOccurrence "//a" ⟨"node", "1"⟩ "see" "en")).2.create
      (.ofOccurrence "//a" ⟨"node", "2"⟩ "see" "en")).2
    let answer : String → CheckResult := fun url => ⟨url, .broken, none, none⟩
    let fetch : Fetcher Unit := fun url _ web => (answer url, web)
    ∃ w summary o,
      checkAll (World.access Unit) (fetch.observed Fallible) (⟨0, 0, 0⟩ : Timestamp) 1000 50
          ⟨⟨x, [], [⟨.update, some "disk full", 1⟩], false⟩, [], ()⟩ =
        (.error (.storage "disk full"), w) ∧
      LeftBehind fetch 1000 x.records x (.storage "disk full") w ∧
      Deed.updates w.deeds = [1] ∧
      checkAll (Index.access.observed Unit) (fetch.observed Index) (⟨0, 0, 0⟩ : Timestamp) 1000 50
          ⟨w.store.index, [], ()⟩ = (.ok summary, o) ∧
      List.Forall₂ (fun d f => f.1 = d.1 ∧ f.2.failCount = countedAgain answer [1] d)
        x.entries o.store.entries := by
  intro x answer fetch
  have hx : x.WellFormed :=
    (Index.wellFormed_empty.create (.ofOccurrence "//a" ⟨"node", "1"⟩ "see" "en")).create
      (.ofOccurrence "//a" ⟨"node", "2"⟩ "see" "en")
  obtain ⟨hleft, hagain⟩ := (failed_check fetch (⟨0, 0, 0⟩ : Timestamp) 1000
    ⟨x, [], [⟨.update, some "disk full", 1⟩], false⟩ rfl hx ()).2 50 _ _ rfl
  obtain ⟨summary, o, hcheck, hcounts⟩ := hagain answer (⟨0, 0, 0⟩ : Timestamp)
    (fun _ _ => rfl) (fun _ urls => List.Perm.refl urls) 50 ()
  exact ⟨_, summary, o, rfl, hleft, rfl, hcheck, hcounts⟩

end Check
end LinkLedger
