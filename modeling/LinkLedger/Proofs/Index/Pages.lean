import LinkLedger.Proofs.Index.Cursor

/-!
# Following an index page by page

Whoever goes through an index page by page, each page from the last record of the one before, sees
every record above the cursor that it begins with, once and in the order of the numbers.  The pages
may be of any sizes, and what becomes of records that have been seen does not matter.

**Results.**
* `Reachable`: the indexes that the operations make; `Reachable.wellFormed`: they are sound.
* `WellFormed.above_behind_page`: what is above the last record of a page.
* `Meddled`: an index to whose seen records something has been done; `Meddled.above`: the others are
  what they were.
* `pagesFrom_exact`: the pages from a cursor on.
-/

namespace LinkLedger
namespace Index

/-! ## Indexes that the operations make -/

/-- The indexes that can be made by taking in records, writing to them and removing them. -/
inductive Reachable : Index → Prop where
  | empty : Reachable empty
  | create
      {x : Index}
      (h : Reachable x)
      (r : LinkRecord) :
      Reachable (x.create r).2
  | update
      {x y : Index}
      {r : LinkRecord}
      (h : Reachable x)
      (hupdate : x.update r = .ok y) :
      Reachable y
  | delete
      {x : Index}
      (h : Reachable x)
      (ids : List Nat) :
      Reachable (x.delete ids).2

variable {x y : Index} {cursor : Option Nat}

theorem Reachable.wellFormed
    (h : x.Reachable) :
    x.WellFormed := by
  induction h with
  | empty => exact wellFormed_empty
  | create _ r ih => exact ih.create r
  | update _ hupdate ih => exact ih.update hupdate
  | delete _ ids ih => exact ih.delete ids

theorem Reachable.createAll
    (h : x.Reachable)
    (rs : List LinkRecord) :
    (x.createAll rs).Reachable := by
  induction rs generalizing x with
  | nil => exact h
  | cons r rs ih => exact ih (h.create r)

/-! ## Behind a page -/

/-- Above the last record of a page is what the page leaves over. -/
theorem WellFormed.above_behind_page
    (hx : x.WellFormed)
    {limit : Nat}
    {last : Nat × LinkRecord}
    (hlast : ((x.above cursor).take limit).getLast? = some last) :
    x.above (some last.1) = (x.above cursor).drop limit := by
  have hsplit : x.entries =
      (x.passed cursor ++ (x.above cursor).take limit) ++ (x.above cursor).drop limit := by
    rw [List.append_assoc, List.take_append_drop]
    exact (hx.cut cursor).entries
  have hcut := hx.cut_of_split hsplit
  rw [List.getLast?_append, hlast, Option.some_or, Option.map_some] at hcut
  exact hcut.above_eq

/-- The records above a cursor, told by the numbers that they carry. -/
theorem WellFormed.records_above
    (hx : x.WellFormed)
    (cursor : Option Nat) :
    (x.above cursor).map (·.2) = x.records.filter fun r => r.id.any (isAbove cursor) := by
  rw [records, List.filter_map, Index.above]
  congr 1
  exact List.filter_congr fun e he => by simp [hx.numbered e he]

/-- Records are listed in the order of their numbers. -/
theorem WellFormed.pairwise_records_above
    (hx : x.WellFormed)
    (cursor : Option Nat) :
    ((x.above cursor).map (·.2)).Pairwise fun r s =>
      ∃ m n, r.id = some m ∧ s.id = some n ∧ m < n := by
  rw [List.pairwise_map]
  refine List.Pairwise.imp_of_mem ?_ (hx.ascending.sublist List.filter_sublist)
  intro d e hd he hlt
  exact ⟨d.1, e.1, hx.numbered d (List.mem_filter.1 hd).1, hx.numbered e (List.mem_filter.1 he).1,
    hlt⟩

/-! ## Records that have been seen -/

/-- What becomes of an index by writing to records that a cursor has passed and removing them. -/
inductive Meddled (cursor : Option Nat) (x : Index) : Index → Prop where
  | refl : Meddled cursor x x
  | update
      {y z : Index}
      {r : LinkRecord}
      {id : Nat}
      (h : Meddled cursor x y)
      (hid : r.id = some id)
      (hpassed : isAbove cursor id = false)
      (hupdate : y.update r = .ok z) :
      Meddled cursor x z
  | delete
      {y : Index}
      {ids : List Nat}
      (h : Meddled cursor x y)
      (hpassed : ∀ id ∈ ids, isAbove cursor id = false) :
      Meddled cursor x (y.delete ids).2

theorem Meddled.wellFormed
    (h : Meddled cursor x y)
    (hx : x.WellFormed) :
    y.WellFormed := by
  induction h with
  | refl => exact hx
  | update _ _ _ hupdate ih => exact ih.update hupdate
  | delete _ _ ih => exact ih.delete _

/-- Writing to a record that a cursor has passed changes nothing above it. -/
theorem above_update
    {r : LinkRecord}
    {id : Nat}
    (hid : r.id = some id)
    (hpassed : isAbove cursor id = false)
    (hupdate : x.update r = .ok y) :
    y.above cursor = x.above cursor := by
  obtain ⟨id', hid', rfl⟩ := eq_of_update hupdate
  obtain rfl : id = id' := Option.some.inj (hid.symm.trans hid')
  rw [Index.above, Index.above]
  induction x.entries with
  | nil => rfl
  | cons e es ih =>
      by_cases he : e.1 = id
      · simp [he, hpassed, ih]
      · simp [he, List.filter_cons, ih]

/-- Removing records that a cursor has passed changes nothing above it. -/
theorem above_delete
    {ids : List Nat}
    (hpassed : ∀ id ∈ ids, isAbove cursor id = false) :
    (x.delete ids).2.above cursor = x.above cursor := by
  rw [Index.above, entries_delete, List.filter_filter, Index.above]
  refine List.filter_congr fun e _ => ?_
  cases habove : isAbove cursor e.1 with
  | false => rfl
  | true =>
      have hkept : e.1 ∉ ids := fun hmem => by simp [hpassed e.1 hmem] at habove
      simp [hkept]

/-- Above a cursor, everything is as if nothing had been done to the records that it has passed. -/
theorem Meddled.above
    (h : Meddled cursor x y) :
    y.above cursor = x.above cursor := by
  induction h with
  | refl => rfl
  | update _ hid hpassed hupdate ih => exact (above_update hid hpassed hupdate).trans ih
  | delete _ hpassed ih => exact (above_delete hpassed).trans ih

/-! ## Page by page -/

variable {limit : Nat → Nat} {meddle : Nat → Option Nat → Index → Index}

/-- The pages from a cursor on until one is empty, each from the last record of the one before, if
the rounds suffice; `n` pages have been read before.  The limits differ from page to page, and
behind each page something may be done to the index. -/
def pagesFrom (limit : Nat → Nat) (meddle : Nat → Option Nat → Index → Index) :
    (rounds n : Nat) → Option Nat → Index → Option (List (List LinkRecord))
  | 0, _, _, _ => none
  | rounds + 1, n, cursor, x =>
      let page := x.page cursor (limit n)
      match page.getLast? with
      | none => some []
      | some last =>
          (pagesFrom limit meddle rounds (n + 1) last.id (meddle n last.id x)).map (page :: ·)

/-- What the pages from a cursor on are, in any number of rounds that is larger than the number of
entries there. -/
structure PagesAre (limit : Nat → Nat) (meddle : Nat → Option Nat → Index → Index) (n : Nat)
    (cursor : Option Nat) (x : Index) (pages : List (List LinkRecord)) : Prop where
  end_of : ∀ rounds, (x.above cursor).length < rounds →
    pagesFrom limit meddle rounds n cursor x = some pages
  flatten : pages.flatten = (x.above cursor).map (·.2)
  sizes : ∀ k page, pages[k]? = some page → page ≠ [] ∧ page.length ≤ limit (n + k)

/-- Where nothing is above the cursor there are no pages. -/
theorem PagesAre.nil
    {n : Nat}
    (habove : x.above cursor = []) :
    PagesAre limit meddle n cursor x [] := by
  have hpage : x.page cursor (limit n) = [] := by
    change ((x.above cursor).take (limit n)).map (·.2) = []
    rw [habove, List.take_nil, List.map_nil]
  refine ⟨fun rounds hrounds => ?_, by rw [habove]; rfl, by simp⟩
  cases rounds with
  | zero => omega
  | succ rounds =>
      rw [pagesFrom, hpage]
      rfl

/-- Behind a page come the pages from its last record on, whatever becomes of those seen. -/
theorem PagesAre.cons
    {n : Nat}
    {last : Nat × LinkRecord}
    {pages : List (List LinkRecord)}
    (hx : x.WellFormed)
    (hlast : ((x.above cursor).take (limit n)).getLast? = some last)
    (hmeddle : Meddled (some last.1) x (meddle n (some last.1) x))
    (h : PagesAre limit meddle (n + 1) (some last.1) (meddle n (some last.1) x) pages) :
    PagesAre limit meddle n cursor x (x.page cursor (limit n) :: pages) := by
  have hpage : x.page cursor (limit n) = ((x.above cursor).take (limit n)).map (·.2) := rfl
  have hmem : last ∈ (x.above cursor).take (limit n) := List.mem_of_getLast? hlast
  have hid : last.2.id = some last.1 :=
    hx.numbered last (List.mem_filter.1 (List.mem_of_mem_take hmem)).1
  have hbehind : (meddle n (some last.1) x).above (some last.1) =
      (x.above cursor).drop (limit n) :=
    hmeddle.above.trans (hx.above_behind_page hlast)
  have hshorter : ((x.above cursor).drop (limit n)).length < (x.above cursor).length := by
    rw [← hx.above_behind_page hlast]
    exact length_above_lt (List.mem_of_mem_take hmem)
  refine ⟨fun rounds hrounds => ?_, ?_, fun k page hk => ?_⟩
  · cases rounds with
    | zero => omega
    | succ rounds =>
        have hrest := h.end_of rounds (by rw [hbehind]; omega)
        rw [pagesFrom, hpage, List.getLast?_map, hlast, Option.map_some]
        dsimp only
        rw [hid, hrest, Option.map_some]
  · rw [List.flatten_cons, h.flatten, hbehind, hpage, ← List.map_append, List.take_append_drop]
  · cases k with
    | zero =>
        obtain rfl : x.page cursor (limit n) = page := by simpa using hk
        refine ⟨fun hnone => ?_, ?_⟩
        · rw [hpage, List.map_eq_nil_iff] at hnone
          rw [hnone] at hmem
          cases hmem
        · rw [hpage, List.length_map]
          exact List.length_take_le _ _
    | succ k =>
        have hsize := h.sizes k page (by simpa using hk)
        rwa [Nat.add_right_comm, Nat.add_assoc] at hsize

/-- From every cursor on there are pages, if no limit is zero. -/
theorem WellFormed.exists_pagesAre
    (hx : x.WellFormed)
    (hlimit : ∀ n, 1 ≤ limit n)
    (hmeddle : ∀ n cursor y, Meddled cursor y (meddle n cursor y))
    (n : Nat)
    (cursor : Option Nat) :
    ∃ pages, PagesAre limit meddle n cursor x pages := by
  -- What is above the cursor gets less with every page.
  induction hlength : (x.above cursor).length using Nat.strongRecOn generalizing x cursor n with
  | ind length ih =>
      cases hlast : ((x.above cursor).take (limit n)).getLast? with
      | none =>
          refine ⟨[], PagesAre.nil (above_of_page_eq_nil (hlimit n) ?_)⟩
          exact List.map_eq_nil_iff.2 (List.getLast?_eq_none_iff.1 hlast)
      | some last =>
          have hdone := hmeddle n (some last.1) x
          have hshorter : ((meddle n (some last.1) x).above (some last.1)).length < length := by
            rw [hdone.above, ← hlength]
            exact length_above_lt (List.mem_of_mem_take (List.mem_of_getLast? hlast))
          obtain ⟨pages, hpages⟩ := ih _ hshorter (hdone.wellFormed hx) (n + 1) (some last.1) rfl
          exact ⟨_, hpages.cons hx hlast hdone⟩

/--
Paging through an index from any cursor on, with any limits that are not zero, comes to an end,
whatever is done between the pages to records that have been passed.  The pages are the records
above the cursor as they were at the beginning, each once and in the order of the numbers, and no
page is empty or larger than its limit.
-/
theorem pagesFrom_exact
    (hx : x.Reachable)
    (cursor : Option Nat)
    (hlimit : ∀ n, 1 ≤ limit n)
    (hmeddle : ∀ n cursor y, Meddled cursor y (meddle n cursor y)) :
    ∃ pages : List (List LinkRecord),
      (∀ rounds, (x.above cursor).length < rounds →
        pagesFrom limit meddle rounds 0 cursor x = some pages) ∧
      pages.flatten = (x.records.filter fun r => r.id.any (isAbove cursor)) ∧
      (pages.flatten.Pairwise fun r s => ∃ m n, r.id = some m ∧ s.id = some n ∧ m < n) ∧
      ∀ k page, pages[k]? = some page → page ≠ [] ∧ page.length ≤ limit k := by
  have hwell := hx.wellFormed
  obtain ⟨pages, hpages⟩ := hwell.exists_pagesAre hlimit hmeddle 0 cursor
  refine ⟨pages, hpages.end_of, ?_, ?_, ?_⟩
  · rw [hpages.flatten, hwell.records_above]
  · rw [hpages.flatten]
    exact hwell.pairwise_records_above cursor
  · simpa only [Nat.zero_add] using hpages.sizes

/-- The record of the first page is removed behind it, and the next page has two records; a record
that was removed before is not seen. -/
theorem pagesFrom_exact_behind_removal :
    ∃ pages : List (List LinkRecord),
      pagesFrom (fun n => n + 1)
        (fun n cursor x => if n = 0 then (x.delete cursor.toList).2 else x) 4 0 none
        ((empty.createAll (List.replicate 4 default)).delete [3]).2 = some pages ∧
      pages.flatten.map (·.id) = [some 1, some 2, some 4] := by
  have hmeddle : ∀ (n : Nat) (cursor : Option Nat) (x : Index),
      Meddled cursor x (if n = 0 then (x.delete cursor.toList).2 else x) := by
    intro n cursor x
    split
    · exact Meddled.refl.delete fun id hid => by simp [isAbove, Option.mem_toList.1 hid]
    · exact .refl
  obtain ⟨pages, hpages, hflatten, -⟩ := pagesFrom_exact
    ((Reachable.empty.createAll (List.replicate 4 default)).delete [3]) none
    (fun n => Nat.le_add_left 1 n) hmeddle
  exact ⟨pages, hpages 4 (by decide), by rw [hflatten]; decide⟩

end Index
end LinkLedger
