import LinkLedger.Proofs.CleanUp.Removal
import LinkLedger.Proofs.Index.Cursor
import Mathlib.Algebra.Order.Floor.Div

/-!
# A removal that nothing disturbs

A run over an index that no call to fails goes through the records at most twice: from the cursor of
its progress to the end, and then, if the cursor had passed some, from the front through those.  On
its way it takes every record away, in as few pages as the page size allows.

**Results.**
* `next_of_cut`, `next_of_passed`, `next_of_empty`: the three kinds of pages.
* `runFor_sweep`: a run takes away what is above the cursor, page by page.
* `runFor_empties`: a run with rounds enough, from any progress.
* `run_resume`: a job that is taken up anywhere empties the index, in a known number of pages.
-/

namespace LinkLedger

/-! ## Numbers of pages -/

/-- At most as many records as a page has are one page. -/
theorem ceilDiv_eq_one
    {size n : Nat}
    (hn : 1 ≤ n)
    (hle : n ≤ size) :
    n ⌈/⌉ size = 1 := by
  rw [Nat.ceilDiv_eq_add_pred_div]
  exact Nat.div_eq_of_lt_le (by omega) (by omega)

/-- The pages for many records are a first one and the pages for the rest. -/
theorem ceilDiv_eq_add_one
    {size n : Nat}
    (hsize : 1 ≤ size)
    (hn : 1 ≤ n) :
    n ⌈/⌉ size = (n - size) ⌈/⌉ size + 1 := by
  rcases Nat.le_total n size with hle | hle
  · rw [ceilDiv_eq_one hn hle, Nat.sub_eq_zero_of_le hle, zero_ceilDiv]
  · have hmore : n + size - 1 = (n - size + size - 1) + size := by omega
    rw [Nat.ceilDiv_eq_add_pred_div, Nat.ceilDiv_eq_add_pred_div, hmore, Nat.add_div_right _ hsize]

theorem ceilDiv_le_self
    {size : Nat}
    (hsize : 1 ≤ size)
    (n : Nat) :
    n ⌈/⌉ size ≤ n := by
  rw [ceilDiv_le_iff_le_mul hsize]
  exact Nat.le_mul_of_pos_left n hsize

/-! ## Progress behind pages -/

/-- The progress behind the removal of some entries in pages of a size. -/
def Progress.behind (size : Nat) (p : Progress) (es : List (Nat × LinkRecord)) : Progress :=
  { p with
    cursor := (es.getLast?.map (·.1)).or p.cursor
    pages := p.pages + es.length ⌈/⌉ size
    deleted := p.deleted + es.length }

@[simp] theorem Progress.behind_nil
    (size : Nat)
    (p : Progress) :
    p.behind size [] = p := by
  simp [behind]

/-- The last entry that is removed decides where the cursor stands. -/
theorem Progress.behind_of_ne_nil
    (size : Nat)
    (p : Progress)
    (cursor : Option Nat)
    {es : List (Nat × LinkRecord)}
    (hes : es ≠ []) :
    Progress.behind size { p with cursor := cursor } es = p.behind size es := by
  rw [behind, behind, List.getLast?_eq_some_getLast hes]
  rfl

/-- Behind the first page and then the others is behind all of them. -/
theorem Progress.behind_take_drop
    {size : Nat}
    (hsize : 1 ≤ size)
    (p : Progress)
    {es : List (Nat × LinkRecord)}
    (hes : es ≠ []) :
    (p.behind size (es.take size)).behind size (es.drop size) = p.behind size es := by
  have hpos : 1 ≤ es.length := List.length_pos_of_ne_nil hes
  have hfirst : min size es.length ⌈/⌉ size = 1 :=
    ceilDiv_eq_one (by omega) (Nat.min_le_left _ _)
  have hpages := ceilDiv_eq_add_one hsize hpos
  have hlast : ((es.drop size).getLast?.map (·.1)).or ((es.take size).getLast?.map (·.1)) =
      es.getLast?.map (·.1) := by
    rw [← Option.map_or, ← List.getLast?_append, List.take_append_drop]
  simp only [behind, ← Option.or_assoc, hlast, List.length_drop, List.length_take, hfirst, hpages]
  congr 1
  · omega
  · omega

namespace Removal

variable {x : Index} {size : Nat} {p : Progress} {front back : List (Nat × LinkRecord)}

/-! ## Pages -/

/-- A page that nothing disturbs is what the index lists. -/
theorem processPage_access
    (hopen : p.finished = false)
    (size : Nat)
    (x : Index) :
    processPage Index.access size p x = processLoaded Index.access p (x.page p.cursor size) x :=
  processPage_of_page_ok hopen rfl

/-- At an empty page the number of records decides. -/
theorem processLoaded_access_nil
    (p : Progress)
    (x : Index) :
    processLoaded Index.access p [] x = (atEmptyPage p x.count, x) :=
  rfl

/-- The records of a page are removed by the numbers that they come with. -/
theorem processLoaded_access_of_ne_nil
    (p : Progress)
    {page : List LinkRecord}
    (h : page ≠ [])
    (x : Index) :
    processLoaded Index.access p page x =
      (.ok (.deleted (x.delete (page.filterMap (·.id))).1,
          behindPage p (page.filterMap (·.id)) (x.delete (page.filterMap (·.id))).1),
        (x.delete (page.filterMap (·.id))).2) := by
  rw [processLoaded, List.isEmpty_eq_false_iff.2 h, if_neg Bool.false_ne_true]
  rfl

/-- A page takes away the first records above the cursor. -/
theorem next_of_cut
    (hx : x.WellFormed)
    (hopen : p.finished = false)
    (hcut : x.Cut p.cursor front back)
    (hsize : 1 ≤ size)
    (hback : back ≠ []) :
    next Index.access ⟨size, p⟩ x =
      ((.ok (.deleted (back.take size).length), ⟨size, p.behind size (back.take size)⟩),
        { x with entries := front ++ back.drop size }) := by
  have hparts : x.entries = front ++ back.take size ++ back.drop size := by
    rw [List.append_assoc, List.take_append_drop, hcut.entries]
  have hpos : 1 ≤ (back.take size).length := by
    have hlength := List.length_pos_of_ne_nil hback
    rw [List.length_take]
    omega
  have hmax : (((back.take size).map (·.2)).filterMap (·.id)).max? =
      (back.take size).getLast?.map (·.1) := by
    rw [hx.ids_of_subset fun e he => hparts ▸ List.mem_append_left _ (List.mem_append_right _ he)]
    exact Index.Cut.max?_keys hx ((List.take_append_drop size back).symm ▸ hcut)
  have hprogress : behindPage p (((back.take size).map (·.2)).filterMap (·.id))
      (back.take size).length = p.behind size (back.take size) := by
    rw [behindPage, Progress.behind, hmax, ceilDiv_eq_one hpos (List.length_take_le _ _)]
  have hpage : (back.take size).map (·.2) ≠ [] :=
    mt List.map_eq_nil_iff.1 (List.ne_nil_of_length_pos hpos)
  refine next_of_ok ?_
  rw [processPage_access hopen, hcut.page, processLoaded_access_of_ne_nil p hpage,
    hx.delete_middle hparts, hprogress]

/-- A page above which nothing is left, with records that the cursor has passed, starts over. -/
theorem next_of_passed
    (hopen : p.finished = false)
    {id : Nat}
    (hcursor : p.cursor = some id)
    (hcut : x.Cut p.cursor front [])
    (hfront : front ≠ []) :
    next Index.access ⟨size, p⟩ x =
      ((.ok (.deleted 0), ⟨size, { p with cursor := none }⟩), x) := by
  have hcount : x.count ≠ 0 := by
    rw [Index.count, hcut.entries, List.append_nil]
    exact fun hnone => hfront (List.length_eq_zero_iff.1 hnone)
  refine next_of_ok ?_
  rw [processPage_access hopen, hcut.page, List.take_nil, List.map_nil, processLoaded_access_nil,
    atEmptyPage, if_neg hcount, hcursor]

/-- A page of an index without records is the last one. -/
theorem next_of_empty
    (hopen : p.finished = false)
    (hempty : x.entries = []) :
    next Index.access ⟨size, p⟩ x =
      ((.ok .finished, ⟨size, { p with finished := true }⟩), x) := by
  have hpage : x.page p.cursor size = [] := by
    simp [Index.page, hempty]
  have hcount : x.count = 0 := by
    rw [Index.count, hempty, List.length_nil]
  refine next_of_ok ?_
  rw [processPage_access hopen, hpage, processLoaded_access_nil, atEmptyPage, if_pos hcount]

/-! ## Sweeps -/

/-- A run that nothing disturbs takes away what is above the cursor, page by page. -/
theorem runFor_sweep
    (hx : x.WellFormed)
    (hopen : p.finished = false)
    (hcut : x.Cut p.cursor front back)
    (hsize : 1 ≤ size)
    (fuel : Nat) :
    runFor Index.access (fun _ => false) (fuel + back.length ⌈/⌉ size) ⟨size, p⟩ x =
        runFor Index.access (fun _ => false) fuel ⟨size, p.behind size back⟩
          { x with entries := front } ∧
      Index.Cut { x with entries := front } (p.behind size back).cursor front [] := by
  -- The induction is on the number of records above the cursor, which every page makes smaller.
  induction hn : back.length using Nat.strongRecOn generalizing x p back with
  | _ n ih =>
      subst hn
      by_cases hback : back = []
      · subst hback
        have hall : { x with entries := front } = x := by
          rw [← List.append_nil front, ← hcut.entries]
        rw [Progress.behind_nil, hall, List.length_nil, zero_ceilDiv, Nat.add_zero]
        exact ⟨rfl, hcut⟩
      · have hpos := List.length_pos_of_ne_nil hback
        have hless : (back.drop size).length < back.length := by
          rw [List.length_drop]
          omega
        have hpages := ceilDiv_eq_add_one hsize hpos
        obtain ⟨last, hlast⟩ : ∃ last, (back.take size).getLast? = some last := by
          refine ⟨_, List.getLast?_eq_some_getLast (List.ne_nil_of_length_pos ?_)⟩
          rw [List.length_take]
          omega
        have hcut' := Index.Cut.behind_page hx ((List.take_append_drop size back).symm ▸ hcut) hlast
        have hx' : Index.WellFormed { x with entries := front ++ back.drop size } :=
          hx.sublist (hcut.entries ▸ (List.Sublist.refl front).append (List.drop_sublist size back))
        have hnext := next_of_cut hx hopen hcut hsize hback
        have hbehind := Progress.behind_take_drop hsize p hback
        have hcursor : (p.behind size (back.take size)).cursor = some last.1 := by
          rw [Progress.behind, hlast]
          rfl
        obtain ⟨hrun, hrest⟩ :=
          ih _ hless (p := p.behind size (back.take size)) hx' hopen (hcursor ▸ hcut') rfl
        rw [hbehind] at hrun hrest
        refine ⟨?_, hrest⟩
        rw [hpages, ← List.length_drop, ← hrun, ← Nat.add_assoc]
        exact runFor_of_next hopen rfl hnext _

/-! ## Runs -/

/-- A run over an index without records finishes at once. -/
theorem runFor_of_empty
    (hopen : p.finished = false)
    (hempty : x.entries = [])
    (fuel : Nat) :
    runFor Index.access (fun _ => false) (fuel + 2) ⟨size, p⟩ x =
      ((some (.ok { p with finished := true }), ⟨size, { p with finished := true }⟩), x) := by
  rw [runFor_of_next hopen rfl (next_of_empty hopen hempty)]
  exact runFor_of_finished rfl _ _ _

/-- A run that finds nothing above its cursor goes through what the cursor has passed. -/
theorem runFor_of_passed
    (hx : x.WellFormed)
    (hopen : p.finished = false)
    (hcut : x.Cut p.cursor front [])
    (hsize : 1 ≤ size)
    (fuel : Nat) :
    runFor Index.access (fun _ => false) (fuel + 3 + front.length ⌈/⌉ size) ⟨size, p⟩ x =
      ((some (.ok { p.behind size front with finished := true }),
          ⟨size, { p.behind size front with finished := true }⟩),
        { x with entries := [] }) := by
  by_cases hfront : front = []
  · subst hfront
    have hempty : x = { x with entries := [] } := by
      rw [← List.append_nil [], ← hcut.entries]
    rw [Progress.behind_nil, List.length_nil, zero_ceilDiv, hempty]
    exact runFor_of_empty (x := { x with entries := [] }) hopen rfl (fuel + 1)
  · obtain ⟨id, hcursor⟩ : ∃ id, p.cursor = some id := by
      obtain ⟨e, he⟩ := List.exists_mem_of_ne_nil front hfront
      have hpassed := hcut.passed e he
      cases hnone : p.cursor with
      | none =>
          rw [hnone] at hpassed
          cases hpassed
      | some id => exact ⟨id, rfl⟩
    have hall : x.entries = front := hcut.entries.trans (List.append_nil front)
    have hsweep := (runFor_sweep (p := { p with cursor := none }) hx hopen (Index.cut_none x) hsize
      (fuel + 2)).1
    have hrounds : fuel + 3 + front.length ⌈/⌉ size = fuel + 2 + front.length ⌈/⌉ size + 1 := by
      omega
    rw [hall, Progress.behind_of_ne_nil _ _ _ hfront] at hsweep
    rw [hrounds, runFor_of_next hopen rfl (next_of_passed hopen hcursor hcut hfront), hsweep]
    exact runFor_of_empty (x := { x with entries := [] }) (p := p.behind size front) hopen rfl fuel

/-- The rounds of a run suffice for the pages of both parts of an index. -/
theorem pages_le_rounds
    (hcut : x.Cut p.cursor front back)
    (hsize : 1 ≤ size) :
    back.length ⌈/⌉ size + front.length ⌈/⌉ size + 3 ≤ rounds x.count := by
  have habove := ceilDiv_le_self hsize back.length
  have hpassed := ceilDiv_le_self hsize front.length
  have hcount : x.count = front.length + back.length := by
    rw [Index.count, hcut.entries, List.length_append]
  rw [rounds]
  omega

/-- A run with rounds enough takes away what is above the cursor and then what it had passed. -/
theorem runFor_empties
    (hx : x.WellFormed)
    (hopen : p.finished = false)
    (hcut : x.Cut p.cursor front back)
    (hsize : 1 ≤ size)
    {fuel : Nat}
    (hfuel : back.length ⌈/⌉ size + front.length ⌈/⌉ size + 3 ≤ fuel) :
    runFor Index.access (fun _ => false) fuel ⟨size, p⟩ x =
      ((some (.ok { (p.behind size back).behind size front with finished := true }),
          ⟨size, { (p.behind size back).behind size front with finished := true }⟩),
        { x with entries := [] }) := by
  obtain ⟨more, rfl⟩ := Nat.exists_eq_add_of_le hfuel
  have hrounds : back.length ⌈/⌉ size + front.length ⌈/⌉ size + 3 + more =
      more + 3 + front.length ⌈/⌉ size + back.length ⌈/⌉ size := by
    omega
  have hx' : Index.WellFormed { x with entries := front } :=
    hx.sublist (hcut.entries ▸ List.sublist_append_left front back)
  obtain ⟨hsweep, hcut'⟩ :=
    runFor_sweep hx hopen hcut hsize (more + 3 + front.length ⌈/⌉ size)
  rw [hrounds, hsweep]
  exact runFor_of_passed (p := p.behind size back) hx' hopen hcut' hsize more

/--
A job that is taken up from any progress that is not finished, with pages of any size, removes all
records of an index, and it says so.  Its pages are those for the records above the cursor and those
for the records that the cursor has passed, and it ends with the number of the last record that it
has removed.  It needs no more rounds than there are such pages and three more.
-/
theorem run_resume
    (hx : x.WellFormed)
    (pageSize : Nat)
    (hopen : p.finished = false) :
    ∃ q : Progress,
      (resume pageSize p).run Index.access false x =
          ((some (.ok q), ⟨max pageSize 1, q⟩), { x with entries := [] }) ∧
        (∀ fuel,
          (x.above p.cursor).length ⌈/⌉ max pageSize 1 +
              (x.passed p.cursor).length ⌈/⌉ max pageSize 1 + 3 ≤ fuel →
            runFor Index.access (fun _ => false) fuel (resume pageSize p) x =
              ((some (.ok q), ⟨max pageSize 1, q⟩), { x with entries := [] })) ∧
        q.finished = true ∧
        q.deleted = p.deleted + x.count ∧
        q.pages = p.pages + (x.above p.cursor).length ⌈/⌉ max pageSize 1 +
          (x.passed p.cursor).length ⌈/⌉ max pageSize 1 ∧
        q.cursor = (((x.above p.cursor ++ x.passed p.cursor).getLast?).map (·.1)).or p.cursor := by
  have hsize : 1 ≤ max pageSize 1 := Nat.le_max_right _ _
  have hcut := hx.cut p.cursor
  have hcount : x.count = (x.passed p.cursor).length + (x.above p.cursor).length := by
    rw [Index.count, hcut.entries, List.length_append]
  refine ⟨_, runFor_empties hx hopen hcut hsize (pages_le_rounds hcut hsize),
    fun _ hfuel => runFor_empties hx hopen hcut hsize hfuel, rfl, ?_, rfl, ?_⟩
  · simp only [Progress.behind]
    omega
  · simp only [Progress.behind, List.getLast?_append, Option.map_or, Option.or_assoc]

/-- A job whose cursor has passed three of five records, with pages of two. -/
theorem run_resume_past_some :
    ∃ x : Index, ∃ q : Progress,
      x = Index.empty.createAll (List.replicate 5 (.ofOccurrence "a" ⟨"node", "1"⟩ "see" "en")) ∧
        (resume 2 ⟨some 3, 7, 4, false⟩).run Index.access false x =
          ((some (.ok q), ⟨2, q⟩), { x with entries := [] }) ∧
        q.pages = 10 ∧ q.deleted = 9 ∧ q.cursor = some 3 := by
  obtain ⟨q, hrun, -, -, hdeleted, hpages, hcursor⟩ := run_resume
    (Index.wellFormed_empty.createAll
      (List.replicate 5 (.ofOccurrence "a" ⟨"node", "1"⟩ "see" "en")))
    2 (p := ⟨some 3, 7, 4, false⟩) rfl
  exact ⟨_, q, rfl, hrun, hpages, hdeleted, hcursor⟩

end Removal
end LinkLedger
