import LinkLedger.Proofs.CleanUp.Shared
import LinkLedger.Proofs.Index.Pages

/-!
# Behind the cursor of a removal

A removal begins at the front, and numbers are drawn in ascending order.  But a record comes in
under its number only later, and the job may have gone past the number by then.  Whatever others do
to the index meanwhile, and from whatever saved progress the job is taken up: only such a record is
ever behind its cursor.

**Results.**
* `Index.Cleared`, `Index.Covered`: only late numbers are behind a cursor, and only late ones are
  between the records of a page; `Later.cleared`, `Later.covered`: it stays so.
* `SharedRemoval.Overtaken`: the job has gone past a number while it was drawn and not in use.
* `Orderly.afterAll`: what is behind the cursor, or behind any that has been saved, was overtaken.
* `PageEnds`: how a page call can end, with others between its two halves.
* `SharedRemoval.overtaken_of_behind_cursor`: what holds of the index and what a page can do.
-/

namespace LinkLedger

/-! ## Cursors and pages that numbers can be late for -/

namespace Index

/-- Only late numbers are in use up to a cursor, and no number up to it is still to be drawn. -/
structure Cleared (late : Nat → Prop) (x : Index) (cursor : Option Nat) : Prop where
  above : ∀ e ∈ x.entries, isAbove cursor e.1 = true ∨ late e.1
  given : ∀ id ∈ cursor, id ≤ x.last

/-- Of some numbers and those up to them, only late ones are in use besides them, and none is still
to be drawn. -/
structure Covered (late : Nat → Prop) (x : Index) (ids : List Nat) : Prop where
  behind : ∀ e ∈ x.entries, e.1 ∈ ids ∨ (∀ id ∈ ids, id < e.1) ∨ late e.1
  given : ∀ id ∈ ids, id ≤ x.last

variable {late late' : Nat → Prop} {x y : Index} {cursor : Option Nat} {ids : List Nat}

/-- A number above all that have been drawn is above a cursor among these. -/
theorem isAbove_of_last_lt
    (hgiven : ∀ id ∈ cursor, id ≤ x.last)
    {n : Nat}
    (hn : x.last < n) :
    isAbove cursor n = true := by
  cases cursor with
  | none => rfl
  | some id => simpa [isAbove] using Nat.lt_of_le_of_lt (hgiven id rfl) hn

theorem Cleared.mono
    (h : x.Cleared late cursor)
    (hlate : ∀ n, late n → late' n) :
    x.Cleared late' cursor :=
  ⟨fun e he => (h.above e he).imp_right (hlate e.1), h.given⟩

theorem Covered.mono
    (h : x.Covered late ids)
    (hlate : ∀ n, late n → late' n) :
    x.Covered late' ids :=
  ⟨fun e he => (h.behind e he).imp_right fun hrest => hrest.imp_right (hlate e.1), h.given⟩

theorem Later.cleared
    (h : Later x y)
    (hx : x.Cleared late cursor) :
    y.Cleared late cursor := by
  refine ⟨fun e he => ?_, fun id hid => Nat.le_trans (hx.given id hid) h.last_le⟩
  rcases h.numbers e he with hold | hnew
  · obtain ⟨d, hd, hsame⟩ := List.mem_map.1 hold
    rw [← hsame]
    exact hx.above d hd
  · exact Or.inl (isAbove_of_last_lt hx.given hnew)

theorem Later.covered
    (h : Later x y)
    (hx : x.Covered late ids) :
    y.Covered late ids := by
  refine ⟨fun e he => ?_, fun id hid => Nat.le_trans (hx.given id hid) h.last_le⟩
  rcases h.numbers e he with hold | hnew
  · obtain ⟨d, hd, hsame⟩ := List.mem_map.1 hold
    rw [← hsame]
    exact hx.behind d hd
  · exact Or.inr (Or.inl fun id hid => Nat.lt_of_le_of_lt (hx.given id hid) hnew)

theorem cleared_none
    (late : Nat → Prop)
    (x : Index) :
    x.Cleared late none :=
  ⟨fun _ _ => Or.inl rfl, nofun⟩

theorem covered_nil
    (late : Nat → Prop)
    (x : Index) :
    x.Covered late [] :=
  ⟨fun _ _ => Or.inr (Or.inl nofun), nofun⟩

/-- A record may come in behind a cursor under a late number only. -/
theorem Cleared.insert
    (h : x.Cleared late cursor)
    {id : Nat}
    (hid : isAbove cursor id = true ∨ late id)
    (r : LinkRecord) :
    (x.insert id r).2.Cleared late cursor := by
  refine ⟨fun e he => ?_, h.given⟩
  rcases mem_insert.1 he with rfl | ⟨he, -⟩
  · exact hid
  · exact h.above e he

theorem Covered.insert
    (h : x.Covered late ids)
    {id : Nat}
    (hid : (∀ other ∈ ids, other < id) ∨ late id)
    (r : LinkRecord) :
    (x.insert id r).2.Covered late ids := by
  refine ⟨fun e he => ?_, h.given⟩
  rcases mem_insert.1 he with rfl | ⟨he, -⟩
  · exact Or.inr hid
  · exact h.behind e he

/-- Where only late numbers are behind the cursor, an empty page tells that no others are left. -/
theorem Cleared.late_of_page_eq_nil
    (h : x.Cleared late cursor)
    {limit : Nat}
    (hlimit : 1 ≤ limit)
    (hpage : x.page cursor limit = []) :
    ∀ e ∈ x.entries, late e.1 := by
  intro e he
  refine (h.above e he).resolve_left fun habove => ?_
  have hmem : e ∈ x.above cursor := List.mem_filter.2 ⟨he, habove⟩
  rw [above_of_page_eq_nil hlimit hpage] at hmem
  cases hmem

/-- Where only late numbers are behind the cursor, only late ones are between the records of a
page. -/
theorem Cleared.covered_page
    (h : x.Cleared late cursor)
    (hx : x.WellFormed)
    (limit : Nat) :
    x.Covered late ((x.page cursor limit).filterMap (·.id)) := by
  have hpage : x.page cursor limit = ((x.above cursor).take limit).map (·.2) := rfl
  have hentries : ∀ e ∈ (x.above cursor).take limit, e ∈ x.entries :=
    fun e he => (List.mem_filter.1 (List.mem_of_mem_take he)).1
  have hsorted : (x.above cursor).Pairwise fun a b => a.1 < b.1 :=
    hx.ascending.sublist List.filter_sublist
  rw [← List.take_append_drop limit (x.above cursor), List.pairwise_append] at hsorted
  obtain ⟨-, -, hbetween⟩ := hsorted
  rw [hpage, hx.ids_of_subset hentries]
  refine ⟨fun e he => ?_, fun id hid => ?_⟩
  · rcases h.above e he with habove | hlate
    · have hmem : e ∈ x.above cursor := List.mem_filter.2 ⟨he, habove⟩
      rw [← List.take_append_drop limit (x.above cursor)] at hmem
      rcases List.mem_append.1 hmem with hmem | hmem
      · exact Or.inl (List.mem_map_of_mem hmem)
      · refine Or.inr (Or.inl fun id hid => ?_)
        obtain ⟨d, hd, rfl⟩ := List.mem_map.1 hid
        exact hbetween d hd e hmem
    · exact Or.inr (Or.inr hlate)
  · obtain ⟨d, hd, rfl⟩ := List.mem_map.1 hid
    exact hx.bounded d (hentries d hd)

/-- Without the records of a page only late numbers are behind the largest of their numbers. -/
theorem Covered.cleared_delete
    (h : x.Covered late ids)
    (hx : x.Cleared late cursor) :
    (x.delete ids).2.Cleared late (ids.max?.or cursor) := by
  cases hmax : ids.max? with
  | none => exact (x.later_delete ids).cleared hx
  | some id =>
      have hid : id ∈ ids := List.max?_mem hmax
      refine ⟨fun e he => ?_, fun id' hid' => ?_⟩
      · rw [entries_delete] at he
        obtain ⟨hmem, hkept⟩ := List.mem_filter.1 he
        rcases h.behind e hmem with hin | habove | hlate
        · simp [hin] at hkept
        · exact Or.inl (by simpa [isAbove] using habove id hid)
        · exact Or.inr hlate
      · obtain rfl : id = id' := by simpa using hid'
        exact Nat.le_trans (h.given id hid) (x.later_delete ids).last_le

/-- The largest number of a page of records is above the cursor that the page is behind. -/
theorem WellFormed.exists_max?_page
    (hx : x.WellFormed)
    {limit : Nat}
    (hpage : x.page cursor limit ≠ []) :
    ∃ id, ((x.page cursor limit).filterMap (·.id)).max? = some id ∧
      isAbove cursor id = true := by
  obtain ⟨r, hr⟩ := List.exists_mem_of_ne_nil _ hpage
  obtain ⟨e, he, rfl⟩ := mem_of_mem_page hr
  have hid : e.1 ∈ (x.page cursor limit).filterMap (·.id) :=
    List.mem_filterMap.2 ⟨e.2, hr, hx.numbered e he⟩
  cases hmax : ((x.page cursor limit).filterMap (·.id)).max? with
  | none =>
      rw [List.max?_eq_none_iff.1 hmax] at hid
      cases hid
  | some id =>
      obtain ⟨r', hr', hid'⟩ := List.mem_filterMap.1 (List.max?_mem hmax)
      obtain ⟨d, hd, rfl⟩ := mem_above_of_mem_page hr'
      obtain ⟨hmem, habove⟩ := List.mem_filter.1 hd
      rw [hx.numbered d hmem] at hid'
      cases hid'
      exact ⟨d.1, rfl, habove⟩

end Index

namespace SharedRemoval

open Removal

/-! ## Numbers that the job has gone past -/

/-- The cursor is at a number or beyond it, or a page has been loaded that takes it there. -/
def Passes (s : SharedRemoval) (n : Nat) : Prop :=
  (∃ id ∈ s.job.progress.cursor, n ≤ id) ∨
    ∃ page ∈ s.loaded, ∃ id ∈ page.filterMap (·.id), n ≤ id

/-- At some moment of the events a number had been drawn for a record that was not in yet, and the
job had gone past the number. -/
def Overtaken (s : SharedRemoval) (events : List Event) (n : Nat) : Prop :=
  ∃ front, front <+: events ∧ n ∈ (s.afterAll front).underway ∧ (s.afterAll front).Passes n

variable {late late' : Nat → Prop} {x : Index} {s : SharedRemoval}

theorem isAbove_or_passes
    (s : SharedRemoval)
    (n : Nat) :
    Index.isAbove s.job.progress.cursor n = true ∨ s.Passes n := by
  cases hcursor : s.job.progress.cursor with
  | none => exact Or.inl rfl
  | some id =>
      rcases Nat.lt_or_ge id n with hlt | hge
      · exact Or.inl (by simpa [Index.isAbove] using hlt)
      · exact Or.inr (Or.inl ⟨id, hcursor, hge⟩)

theorem behind_or_passes
    {page : List LinkRecord}
    (hpage : page ∈ s.loaded)
    (n : Nat) :
    (∀ id ∈ page.filterMap (·.id), id < n) ∨ s.Passes n := by
  by_cases hbehind : ∀ id ∈ page.filterMap (·.id), id < n
  · exact Or.inl hbehind
  · simp only [not_forall, Nat.not_lt] at hbehind
    obtain ⟨id, hid, hle⟩ := hbehind
    exact Or.inr (Or.inr ⟨page, hpage, id, hid, hle⟩)

/-- What has been overtaken stays so. -/
theorem Overtaken.append
    {events : List Event}
    {n : Nat}
    (h : s.Overtaken events n)
    (more : List Event) :
    s.Overtaken (events ++ more) n := by
  obtain ⟨front, hfront, hmoment⟩ := h
  exact ⟨front, hfront.trans (List.prefix_append _ _), hmoment⟩

/-! ## Only late numbers are behind -/

/-- Only late numbers are behind the cursor and between the records of a loaded page; and only late
ones are, or will be, behind any cursor that has been saved. -/
structure Orderly (late : Nat → Prop) (s : SharedRemoval) : Prop where
  sound : Sound s
  cleared : s.store.index.Cleared late s.job.progress.cursor
  covered : ∀ page ∈ s.loaded, s.store.index.Covered late (page.filterMap (·.id))
  saved : ∀ text ∈ s.saved, ∀ progress, Progress.ofText text = .ok progress →
    s.store.index.Cleared late progress.cursor ∧
      ∀ n ∈ s.underway, Index.isAbove progress.cursor n = true ∨ late n

theorem orderly_start
    (hx : x.WellFormed)
    (contents : List Content)
    (pageSize : Nat) :
    Orderly late (start x contents pageSize) :=
  ⟨sound_start hx contents pageSize, Index.cleared_none late x, nofun, nofun⟩

theorem Orderly.mono
    (h : Orderly late s)
    (hlate : ∀ n, late n → late' n) :
    Orderly late' s := by
  refine ⟨h.sound, h.cleared.mono hlate, fun page hpage => (h.covered page hpage).mono hlate,
    fun text htext progress hread => ?_⟩
  obtain ⟨hcleared, hunderway⟩ := h.saved text htext progress hread
  exact ⟨hcleared.mono hlate, fun n hn => (hunderway n hn).imp_right (hlate n)⟩

/-! ## What others do -/

/-- What others do with an index keeps the order. -/
theorem Orderly.of_later
    {store : Fallible}
    (h : Orderly late s)
    (hlater : s.store.Later store) :
    Orderly late { s with store := store } := by
  refine ⟨h.sound.of_later hlater h.sound.pageSize rfl, hlater.index.cleared h.cleared,
    fun page hpage => hlater.index.covered (h.covered page hpage),
    fun text htext progress hread => ?_⟩
  obtain ⟨hcleared, hunderway⟩ := h.saved text htext progress hread
  exact ⟨hlater.index.cleared hcleared, hunderway⟩

theorem Orderly.dropped
    (h : Orderly late s) :
    Orderly late { s with loaded := none } :=
  ⟨h.sound.dropped, h.cleared, nofun, h.saved⟩

/-- A number that is drawn is above all cursors. -/
theorem Orderly.draw
    (h : Orderly late s) :
    Orderly late (s.after .draw) := by
  have hsound := h.sound.draw
  obtain ⟨rest, ⟨text, hfail⟩ | hmade⟩ := s.store.draw_cases
  · rw [SharedRemoval.after, hfail]
    exact h.of_later (s.store.later_faults rest)
  · rw [SharedRemoval.after, hmade] at hsound ⊢
    have hlater := s.store.index.later_draw
    refine ⟨hsound, hlater.cleared h.cleared,
      fun page hpage => hlater.covered (h.covered page hpage),
      fun text htext progress hread => ?_⟩
    obtain ⟨hcleared, hunderway⟩ := h.saved text htext progress hread
    refine ⟨hlater.cleared hcleared, fun n hn => ?_⟩
    rcases List.mem_cons.1 hn with rfl | hn
    · exact Or.inl (Index.isAbove_of_last_lt hcleared.given (Nat.lt_succ_self _))
    · exact hunderway n hn

/-- A record comes in above the cursor, or the job has gone past its number. -/
theorem Orderly.insert
    (h : Orderly late s)
    (hlate : ∀ n ∈ s.underway, s.Passes n → late n)
    (id : Nat)
    (r : LinkRecord) :
    Orderly late (s.after (.insert id r)) := by
  have hsound := h.sound.insert id r
  rw [SharedRemoval.after] at hsound ⊢
  split
  · next hid =>
    rw [if_pos hid] at hsound
    refine ⟨hsound, h.cleared.insert ((s.isAbove_or_passes id).imp_right (hlate id hid)) r,
      fun page hpage => (h.covered page hpage).insert
        ((behind_or_passes hpage id).imp_right (hlate id hid)) r,
      fun text htext progress hread => ?_⟩
    obtain ⟨hcleared, hunderway⟩ := h.saved text htext progress hread
    exact ⟨hcleared.insert (hunderway id hid) r,
      fun n hn => hunderway n (List.mem_of_mem_erase hn)⟩
  · exact h

/-- The number drawn for a record that is taken in at once has not been passed. -/
theorem Orderly.create
    (h : Orderly late s)
    (hlate : ∀ n ∈ s.underway, s.Passes n → late n)
    (r : LinkRecord) :
    Orderly late (s.after (.create r)) := by
  rw [h.sound.after_create]
  refine h.draw.insert (fun n hn hpasses => ?_) _ r
  obtain ⟨hjob, hloaded⟩ := after_byOthers .draw s
  rw [Passes, hjob, hloaded] at hpasses
  have hold : n ∈ s.underway ∨ n = s.store.index.last + 1 := by
    obtain ⟨rest, ⟨text, hfail⟩ | hmade⟩ := s.store.draw_cases
    · rw [SharedRemoval.after, hfail] at hn
      exact Or.inl hn
    · rw [SharedRemoval.after, hmade] at hn
      exact (List.mem_cons.1 hn).symm
  rcases hold with hold | rfl
  · exact hlate n hold hpasses
  · rcases hpasses with ⟨id, hid, hle⟩ | ⟨page, hpage, id, hid, hle⟩
    · exact absurd (h.cleared.given id hid) (Nat.not_le.2 hle)
    · exact absurd ((h.covered page hpage).given id hid) (Nat.not_le.2 hle)

/-! ## What the job does -/

theorem Orderly.save
    (h : Orderly late s)
    (hlate : ∀ n ∈ s.underway, s.Passes n → late n) :
    Orderly late (s.after .save) := by
  refine ⟨h.sound.after .save, h.cleared, h.covered, fun text htext progress hread => ?_⟩
  rcases List.mem_cons.1 htext with rfl | htext
  · rw [Progress.eq_of_ofText_toText hread]
    exact ⟨h.cleared, fun n hn => (s.isAbove_or_passes n).imp_right (hlate n hn)⟩
  · exact h.saved text htext progress hread

/-- A job is taken up from progress that may be old, behind whose cursor only late numbers are. -/
theorem Orderly.restore
    (h : Orderly late s)
    (text : String)
    (pageSize : Nat) :
    Orderly late (s.after (.restore text pageSize)) := by
  have hsound := h.sound.after (.restore text pageSize)
  rcases s.restore_cases text pageSize with heq | ⟨progress, htext, hread, heq⟩
  · rwa [heq]
  · rw [heq] at hsound ⊢
    exact ⟨hsound, (h.saved text htext progress hread).1, nofun, h.saved⟩

theorem Orderly.resume
    (h : Orderly late s)
    (pageSize : Nat) :
    Orderly late (s.after (.resume pageSize)) := by
  have hsound := h.sound.after (.resume pageSize)
  rcases s.resume_cases pageSize with heq | heq
  · rwa [heq]
  · rw [heq] at hsound ⊢
    exact ⟨hsound, h.cleared, nofun, h.saved⟩

theorem Orderly.load
    (h : Orderly late s) :
    Orderly late (s.after .load) := by
  have hsound := h.sound.load
  obtain ⟨faults, hload | ⟨page, -, hpage, hload⟩⟩ := load_cases h.sound.listed
  · rw [hload]
    exact (h.of_later (s.store.later_faults faults)).dropped
  · rw [hload] at hsound ⊢
    refine ⟨hsound, h.cleared, fun page' hpage' => ?_, h.saved⟩
    obtain rfl : page = page' := by simpa using hpage'
    rcases hpage with rfl | rfl
    · exact h.cleared.covered_page h.sound.wellFormed _
    · exact Index.covered_nil late _

theorem Orderly.process
    (h : Orderly late s) :
    Orderly late (s.after .process) := by
  have hsound := h.sound.process
  have hprocessed := s.processed
  generalize s.after .process = t at hsound hprocessed
  cases hprocessed with
  | idle hloaded => exact h
  | failed faults => exact ⟨hsound, h.cleared, nofun, h.saved⟩
  | finished faults hempty => exact ⟨hsound, h.cleared, nofun, h.saved⟩
  | swept faults => exact ⟨hsound, Index.cleared_none late _, nofun, h.saved⟩
  | removed faults page hloaded =>
      have hlater := s.store.index.later_delete (page.filterMap (·.id))
      refine ⟨hsound, (h.covered page hloaded).cleared_delete h.cleared, nofun,
        fun text htext progress hread => ?_⟩
      obtain ⟨hcleared, hunderway⟩ := h.saved text htext progress hread
      exact ⟨hlater.cleared hcleared, hunderway⟩

theorem Orderly.page
    (h : Orderly late s) :
    Orderly late (s.after .page) := by
  rw [after_page]
  exact h.load.process

/-- An event keeps the order, if the numbers under way that the job has gone past are late. -/
theorem Orderly.after
    (h : Orderly late s)
    (hlate : ∀ n ∈ s.underway, s.Passes n → late n)
    (event : Event) :
    Orderly late (s.after event) := by
  cases event with
  | page => exact h.page
  | load => exact h.load
  | process => exact h.process
  | run cancelled => exact after_run (fun _ ht => ht.page) h.dropped cancelled
  | create r => exact h.create hlate r
  | draw => exact h.draw
  | insert id r => exact h.insert hlate id r
  | update r => exact h.of_later (Fallible.later_update r s.store)
  | delete ids => exact h.of_later (Fallible.later_delete ids s.store)
  | arm faults => exact h.of_later (s.store.later_faults faults)
  | save => exact h.save hlate
  | restore text pageSize => exact h.restore text pageSize
  | resume pageSize => exact h.resume pageSize

/-- Behind events, only numbers that have been overtaken are late. -/
theorem Orderly.afterAll
    (hs : ∀ late, Orderly late s)
    (events : List Event) :
    Orderly (s.Overtaken events) (s.afterAll events) := by
  refine afterAll_induction (P := fun front t => Orderly (s.Overtaken front) t) (hs _) ?_ events
  intro front event ih
  refine (ih.mono fun n hn => hn.append [event]).after (fun n hn hpasses => ?_) event
  exact ⟨front, List.prefix_append _ _, hn, hpasses⟩

/-! ## One page, with others in between -/

/-- How a page call can end that succeeds, with its page loaded at `s` and the rest of its work done
at `t`, behind the events `between` of others: nothing is left, and the job is finished; or the
cursor goes on, and records are removed unless others removed them; or the job starts again from the
front, and every record that is left is late or came in after the loading. -/
inductive PageEnds (late : Nat → Prop) (s : SharedRemoval) (between : List Event)
    (t : SharedRemoval) : PageOutcome → Progress → Prop where
  | finished
      (progress : Progress)
      (hfinished : progress.finished = true)
      (hempty : t.store.index.count = 0) :
      PageEnds late s between t .finished progress
  | removed
      (n id : Nat)
      (progress : Progress)
      (hcursor : progress.cursor = some id)
      (habove : Index.isAbove s.job.progress.cursor id = true)
      (hsome : (∀ ids, .delete ids ∉ between) → 0 < n) :
      PageEnds late s between t (.deleted n) progress
  | swept
      (progress : Progress)
      (hcursor : progress.cursor = none)
      (hcount : t.store.index.count ≠ 0)
      (hleft : ∀ r ∈ t.store.index.records, ∃ n, r.id = some n ∧
        ((∀ q ∈ s.store.index.records, q.id ≠ some n) ∨ late n)) :
      PageEnds late s between t (.deleted 0) progress

/-- A record that others do not remove keeps its number in use. -/
theorem mem_numbers_after
    {event : Event}
    (hby : event.ByOthers)
    (hkept : ∀ ids, event ≠ .delete ids)
    {n : Nat}
    (hn : n ∈ s.store.index.entries.map (·.1)) :
    n ∈ (s.after event).store.index.entries.map (·.1) := by
  cases hby with
  | create r =>
      rw [SharedRemoval.after]
      obtain ⟨rest, -, ⟨-, text, hfail⟩ | hmade⟩ := Fallible.create_cases r s.store
      · rw [hfail]
        exact hn
      · rw [hmade]
        dsimp only
        rw [Index.create, List.map_append]
        exact List.mem_append_left _ hn
  | draw =>
      rw [SharedRemoval.after]
      obtain ⟨rest, ⟨text, hfail⟩ | hmade⟩ := s.store.draw_cases
      · rw [hfail]
        exact hn
      · rw [hmade]
        exact hn
  | insert id r =>
      rw [SharedRemoval.after]
      split
      · obtain ⟨e, he, rfl⟩ := List.mem_map.1 hn
        by_cases hsame : e.1 = id
        · exact List.mem_map.2 ⟨_, Index.mem_insert.2 (Or.inl rfl), hsame.symm⟩
        · exact List.mem_map_of_mem (Index.mem_insert.2 (Or.inr ⟨he, hsame⟩))
      · exact hn
  | update r =>
      rw [SharedRemoval.after]
      obtain ⟨rest, ⟨text, hfail⟩ | ⟨y, hupdate, hmade⟩⟩ := Fallible.update_cases r s.store
      · rw [hfail]
        exact hn
      · rw [hmade]
        dsimp only
        rwa [Index.numbers_update hupdate]
  | delete ids => exact absurd rfl (hkept ids)
  | arm faults => exact hn

theorem mem_numbers_afterAll
    {between : List Event}
    (hby : ∀ event ∈ between, event.ByOthers)
    (hkept : ∀ ids, .delete ids ∉ between)
    {n : Nat}
    (hn : n ∈ s.store.index.entries.map (·.1)) :
    n ∈ (s.afterAll between).store.index.entries.map (·.1) := by
  induction between generalizing s with
  | nil => exact hn
  | cons event rest ih =>
      rw [afterAll_cons]
      refine ih (fun e he => hby e (List.mem_cons_of_mem _ he))
        (fun ids hids => hkept ids (List.mem_cons_of_mem _ hids)) ?_
      exact mem_numbers_after (hby event List.mem_cons_self)
        (fun ids heq => hkept ids (heq ▸ List.mem_cons_self)) hn

/-- Records that are left behind an empty page came in since, or they are late. -/
theorem Orderly.left_behind_empty_page
    {t : SharedRemoval}
    (h : Orderly late s)
    (ht : t.store.index.WellFormed)
    (hpage : s.store.index.page s.job.progress.cursor s.job.pageSize = []) :
    ∀ r ∈ t.store.index.records, ∃ n, r.id = some n ∧
      ((∀ q ∈ s.store.index.records, q.id ≠ some n) ∨ late n) := by
  intro r hr
  obtain ⟨e, he, rfl⟩ := List.mem_map.1 hr
  refine ⟨e.1, ht.numbered e he, ?_⟩
  by_cases hnew : ∀ q ∈ s.store.index.records, q.id ≠ some e.1
  · exact Or.inl hnew
  · simp only [not_forall, not_not] at hnew
    obtain ⟨q, hq, hid⟩ := hnew
    obtain ⟨d, hd, rfl⟩ := List.mem_map.1 hq
    rw [h.sound.wellFormed.numbered d hd] at hid
    rw [← Option.some.inj hid]
    exact Or.inr (h.cleared.late_of_page_eq_nil h.sound.pageSize hpage d hd)

/-- A page call that is not given an empty page wrongly, and that succeeds. -/
theorem Orderly.pageEnds
    (h : Orderly late s)
    (hright : (s.after .load).loaded = some [] →
      s.store.index.page s.job.progress.cursor s.job.pageSize = [])
    {between : List Event}
    (hby : ∀ event ∈ between, event.ByOthers)
    {t : SharedRemoval}
    (ht : t = (s.after .load).afterAll between)
    {page : List LinkRecord}
    (hloaded : page ∈ t.loaded)
    {outcome : PageOutcome}
    {progress : Progress}
    {store : Fallible}
    (hprocess : processLoaded Fallible.access t.job.progress page t.store =
      (.ok (outcome, progress), store)) :
    PageEnds late s between t outcome progress := by
  have hsound : Sound t := by
    rw [ht]
    exact h.sound.load.afterAll between
  obtain ⟨hjob, hsame⟩ := afterAll_byOthers hby (s.after .load)
  rw [← ht] at hjob hsame
  rw [hsame] at hloaded
  obtain ⟨faults, hload | ⟨page', -, hpage, hload⟩⟩ := load_cases h.sound.listed
  · rw [hload] at hloaded
    cases hloaded
  · rw [hload] at hright hloaded hjob
    obtain rfl : page' = page := by simpa using hloaded
    by_cases hnil : page' = []
    · subst hnil
      have hleft := h.left_behind_empty_page hsound.wellFormed (hright rfl)
      obtain ⟨faults, -, ⟨-, failure, hfail⟩ | hempty⟩ := processLoaded_nil t.job.progress t.store
      · rw [hfail] at hprocess
        cases hprocess
      · rw [hempty, atEmptyPage] at hprocess
        by_cases hcount : t.store.index.count = 0
        · rw [if_pos hcount] at hprocess
          cases hprocess
          exact .finished _ rfl hcount
        · rw [if_neg hcount] at hprocess
          cases hcursor : t.job.progress.cursor with
          | none =>
              rw [hcursor] at hprocess
              cases hprocess
          | some id =>
              rw [hcursor] at hprocess
              cases hprocess
              exact .swept _ rfl hcount hleft
    · obtain rfl : page' = _ := hpage.resolve_right hnil
      obtain ⟨faults, -, ⟨-, failure, hfail⟩ | hremoved⟩ :=
        processLoaded_of_ne_nil t.job.progress t.store hnil
      · rw [hfail] at hprocess
        cases hprocess
      · rw [hremoved] at hprocess
        cases hprocess
        obtain ⟨id, hmax, habove⟩ := h.sound.wellFormed.exists_max?_page hnil
        refine .removed _ id _ ?_ habove fun hkept => ?_
        · rw [behindPage, hmax, Option.some_or]
        · obtain ⟨r, hr⟩ := List.exists_mem_of_ne_nil _ hnil
          obtain ⟨e, he, rfl⟩ := Index.mem_of_mem_page hr
          have hid := List.mem_filterMap.2 ⟨e.2, hr, h.sound.wellFormed.numbered e he⟩
          have hstill : e.1 ∈ t.store.index.entries.map (·.1) := by
            rw [ht]
            refine mem_numbers_afterAll hby hkept ?_
            rw [hload]
            exact List.mem_map_of_mem he
          obtain ⟨d, hd, hsame⟩ := List.mem_map.1 hstill
          exact Index.delete_pos hd (hsame ▸ hid)

/-! ## What is behind the cursor -/

/-- Numbers come under way by being drawn, and in no other way. -/
theorem underway_after
    {event : Event}
    (hwhole : event ≠ .draw)
    (s : SharedRemoval) :
    (s.after event).underway ⊆ s.underway := by
  cases event with
  | page | run cancelled | update r | delete ids | arm faults | save => exact List.Subset.refl _
  | load =>
      rw [SharedRemoval.after]
      split
      · exact List.Subset.refl _
      · split
        · exact List.Subset.refl _
        · exact List.Subset.refl _
  | process =>
      have hprocessed := s.processed
      generalize s.after .process = t at hprocessed
      cases hprocessed with
      | idle | failed | finished | swept | removed => exact List.Subset.refl _
  | create r =>
      rw [SharedRemoval.after]
      split
      · exact List.Subset.refl _
      · exact List.Subset.refl _
  | draw => exact absurd rfl hwhole
  | insert id r =>
      rw [SharedRemoval.after]
      split
      · exact List.erase_subset
      · exact List.Subset.refl _
  | restore text pageSize =>
      rcases s.restore_cases text pageSize with heq | ⟨progress, -, -, heq⟩
      · rw [heq]
        exact List.Subset.refl _
      · rw [heq]
        exact List.Subset.refl _
  | resume pageSize =>
      rcases s.resume_cases pageSize with heq | heq
      · rw [heq]
        exact List.Subset.refl _
      · rw [heq]
        exact List.Subset.refl _

/-- Where no number is drawn apart from its record, none is overtaken. -/
theorem not_overtaken_of_whole
    {events : List Event}
    (hs : s.underway = [])
    (hwhole : ∀ event ∈ events, event ≠ .draw)
    (n : Nat) :
    ¬ s.Overtaken events n := by
  rintro ⟨front, hfront, hn, -⟩
  have hnone : (s.afterAll front).underway = [] := by
    refine afterAll_induction
      (P := fun front t => (∀ event ∈ front, event ≠ .draw) → t.underway = [])
      (fun _ => hs) (fun front event ih hall => ?_) front
      fun event he => hwhole event (hfront.subset he)
    refine List.subset_nil.1 ?_
    rw [← ih fun e he => hall e (List.mem_append_left _ he)]
    exact underway_after (hall event (by simp)) _
  rw [hnone] at hn
  cases hn

/--
Whatever others do to the index of a removal, whatever fails or is wrongly empty, and whenever the
job is taken up from saved progress: a record has a number up to the cursor of the job only if the
job had gone past that number while it was drawn and the record not in yet.  So there is no such
record if every creation draws its number and takes its record in at once; and if a page is empty,
only such records are left.  A page call that is not given an empty page wrongly, and that does not
fail, finishes the job where no record is left, or moves the cursor on, or starts again from the
front; the last only if every record that is left is such a record or came in after the page had
been loaded.
-/
theorem overtaken_of_behind_cursor
    (hx : x.Reachable)
    (contents : List Content)
    (pageSize : Nat)
    (events : List Event)
    (hs : s = (start x contents pageSize).afterAll events) :
    (∀ r ∈ s.store.index.records, ∃ n, r.id = some n ∧
      ∀ passed ∈ s.job.progress.cursor, n ≤ passed →
        (start x contents pageSize).Overtaken events n) ∧
    ((∀ event ∈ events, event ≠ .draw) →
      ∀ r ∈ s.store.index.records, ∃ n, r.id = some n ∧
        ∀ passed ∈ s.job.progress.cursor, passed < n) ∧
    (s.store.index.page s.job.progress.cursor s.job.pageSize = [] →
      ∀ r ∈ s.store.index.records, ∃ n, r.id = some n ∧
        (start x contents pageSize).Overtaken events n) ∧
    (((s.after .load).loaded = some [] →
        s.store.index.page s.job.progress.cursor s.job.pageSize = []) →
      ∀ between t, (∀ event ∈ between, event.ByOthers) → t = (s.after .load).afterAll between →
        ∀ page ∈ t.loaded, ∀ outcome progress store,
          processLoaded Fallible.access t.job.progress page t.store =
              (.ok (outcome, progress), store) →
            PageEnds ((start x contents pageSize).Overtaken events) s between t
              outcome progress) := by
  have horderly : Orderly ((start x contents pageSize).Overtaken events) s := by
    rw [hs]
    exact Orderly.afterAll (fun _ => orderly_start hx.wellFormed contents pageSize) events
  have hbehind : ∀ r ∈ s.store.index.records, ∃ n, r.id = some n ∧
      ∀ passed ∈ s.job.progress.cursor, n ≤ passed →
        (start x contents pageSize).Overtaken events n := by
    intro r hr
    obtain ⟨e, he, rfl⟩ := List.mem_map.1 hr
    refine ⟨e.1, horderly.sound.wellFormed.numbered e he, fun passed hpassed hle => ?_⟩
    refine (horderly.cleared.above e he).resolve_left fun habove => ?_
    rw [Option.mem_def.1 hpassed] at habove
    exact absurd hle (Nat.not_le.2 (by simpa [Index.isAbove] using habove))
  refine ⟨hbehind, fun hwhole r hr => ?_, fun hpage r hr => ?_, ?_⟩
  · obtain ⟨n, hid, hle⟩ := hbehind r hr
    refine ⟨n, hid, fun passed hpassed => Nat.not_le.1 fun hn => ?_⟩
    exact not_overtaken_of_whole rfl hwhole n (hle passed hpassed hn)
  · obtain ⟨e, he, rfl⟩ := List.mem_map.1 hr
    exact ⟨e.1, horderly.sound.wellFormed.numbered e he,
      horderly.cleared.late_of_page_eq_nil horderly.sound.pageSize hpage e he⟩
  · exact fun hright between t hby ht page hloaded outcome progress store hprocess =>
      horderly.pageEnds hright hby ht hloaded hprocess

/-- Of two records the second comes in first, and the job removes it before the first comes in. -/
theorem overtaken_of_behind_cursor_of_late_insertion :
    ∃ s, s = (start .empty [] 1).afterAll
        [.draw, .draw, .insert 2 default, .page, .insert 1 default] ∧
      s.job.progress.cursor = some 2 ∧ s.store.index.records.map (·.id) = [some 1] ∧
      (start .empty [] 1).Overtaken
        [.draw, .draw, .insert 2 default, .page, .insert 1 default] 1 := by
  obtain ⟨hbehind, -⟩ := overtaken_of_behind_cursor Index.Reachable.empty [] 1
    [.draw, .draw, .insert 2 default, .page, .insert 1 default] rfl
  refine ⟨_, rfl, rfl, rfl, ?_⟩
  obtain ⟨n, hid, hle⟩ := hbehind _ List.mem_cons_self
  cases hid
  exact hle 2 rfl (by decide)

/-- A record is behind the cursor when it comes in late.  A record that comes in between the loading
of an empty page and the counting makes the job start again.  An empty page leaves the job open if
the counting fails. -/
theorem exists_behind_cursor :
    (∃ s, s = (start .empty [] 1).afterAll
          [.draw, .draw, .insert 2 default, .page, .insert 1 default] ∧
        s.job.progress.cursor = some 2 ∧ s.store.index.records.map (·.id) = [some 1]) ∧
      (∃ s, s = (start .empty [] 1).afterAll
          [.create default, .page, .load, .create default, .process] ∧
        s.job.progress = ⟨none, 1, 1, false⟩ ∧
          s.store.index.records.map (·.id) = [some 2]) ∧
      ∃ s, s = (start .empty [] 1).afterAll [.arm [⟨.count, some "locked", 0⟩], .load] ∧
        s.loaded = some [] ∧ s.store.index.count = 0 ∧
          (s.after .process).job.progress = .initial := by
  refine ⟨⟨_, rfl, rfl, rfl⟩, ⟨_, rfl, rfl, rfl⟩, ⟨_, rfl, rfl, rfl, rfl⟩⟩

end SharedRemoval
end LinkLedger
