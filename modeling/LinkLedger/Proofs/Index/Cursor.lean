import LinkLedger.Proofs.Index.WellFormed

/-!
# Indexes and cursors

A cursor parts the records of an index: it has passed the numbers up to its own, and the others are
above it.  Pages list what is above the cursor, from the front on, so an index without the records
of a page is parted by the number of the last one of them.

**Results.**
* `WellFormed.cut`, `WellFormed.cut_of_split`: cursors part an index, and parts have cursors.
* `WellFormed.length_above_of_mem_page`: less is above a cursor that moves on.
* `Cut.page`, `Cut.behind_page`: what a page lists, and how the index is parted without it.
* `WellFormed.delete_middle`: records between others are removed by their numbers.
* `Cut.max?_keys`: the largest number of a page is that of its last record.
-/

namespace LinkLedger
namespace Index

/-- Whether a number is above a cursor; without a cursor every number is. -/
def isAbove (cursor : Option Nat) (id : Nat) : Bool := cursor.all fun passed => passed < id

/-- The entries above a cursor. -/
def above (x : Index) (cursor : Option Nat) : List (Nat × LinkRecord) :=
  x.entries.filter fun e => isAbove cursor e.1

/-- The entries that a cursor has passed. -/
def passed (x : Index) (cursor : Option Nat) : List (Nat × LinkRecord) :=
  x.entries.filter fun e => !isAbove cursor e.1

/-- The entries of an index in two parts: those that a cursor has passed, and those above it. -/
structure Cut (x : Index) (cursor : Option Nat) (front back : List (Nat × LinkRecord)) : Prop where
  entries : x.entries = front ++ back
  passed : ∀ e ∈ front, isAbove cursor e.1 = false
  above : ∀ e ∈ back, isAbove cursor e.1 = true

variable {x y : Index} {cursor : Option Nat} {front middle back rest : List (Nat × LinkRecord)}

/-- Entries in ascending order are those that a cursor has passed and behind them the others. -/
theorem filter_append_filter_isAbove
    {es : List (Nat × LinkRecord)}
    (hes : es.Pairwise fun a b => a.1 < b.1)
    (cursor : Option Nat) :
    es = es.filter (fun e => !isAbove cursor e.1) ++ es.filter fun e => isAbove cursor e.1 := by
  induction es with
  | nil => rfl
  | cons e es ih =>
      obtain ⟨hfirst, hrest⟩ := List.pairwise_cons.1 hes
      cases he : isAbove cursor e.1 with
      | false => simpa [he] using ih hrest
      | true =>
          -- Whatever stands behind a number above the cursor is above it as well.
          have hall : ∀ d ∈ es, isAbove cursor d.1 = true := by
            intro d hd
            cases cursor with
            | none => rfl
            | some id =>
                have hlt := hfirst d hd
                simp only [isAbove, Option.all_some, decide_eq_true_eq] at he ⊢
                omega
          have hnone : es.filter (fun d => !isAbove cursor d.1) = [] :=
            List.filter_eq_nil_iff.2 fun d hd => by simp [hall d hd]
          have hsome : es.filter (fun d => isAbove cursor d.1) = es :=
            List.filter_eq_self.2 hall
          simp [he, hnone, hsome]

theorem WellFormed.cut
    (hx : x.WellFormed)
    (cursor : Option Nat) :
    x.Cut cursor (x.passed cursor) (x.above cursor) := by
  refine ⟨filter_append_filter_isAbove hx.ascending cursor, ?_, ?_⟩
  · intro e he
    simpa using (List.mem_filter.1 he).2
  · intro e he
    exact (List.mem_filter.1 he).2

/-- A page lists entries above its cursor. -/
theorem mem_above_of_mem_page
    {limit : Nat}
    {r : LinkRecord}
    (h : r ∈ x.page cursor limit) :
    ∃ e ∈ x.above cursor, e.2 = r := by
  obtain ⟨e, he, heq⟩ := List.mem_map.1 h
  exact ⟨e, List.mem_of_mem_take he, heq⟩

/-- A page is empty only if nothing is above its cursor. -/
theorem above_of_page_eq_nil
    {limit : Nat}
    (hlimit : 1 ≤ limit)
    (h : x.page cursor limit = []) :
    x.above cursor = [] := by
  have htake : (x.above cursor).take limit = [] := List.map_eq_nil_iff.1 h
  exact (List.take_eq_nil_iff.1 htake).resolve_left (Nat.one_le_iff_ne_zero.1 hlimit)

/-- How many entries are above a cursor depends on the numbers only. -/
theorem length_above_of_keys
    (h : y.entries.map (·.1) = x.entries.map (·.1))
    (cursor : Option Nat) :
    (y.above cursor).length = (x.above cursor).length := by
  have hkeys : ∀ z : Index,
      (z.above cursor).length = ((z.entries.map (·.1)).filter (isAbove cursor)).length := by
    intro z
    rw [List.filter_map, List.length_map]
    rfl
  rw [hkeys, hkeys, h]

/-- Fewer entries are above a cursor that has been moved on to an entry. -/
theorem length_above_lt
    {e : Nat × LinkRecord}
    (he : e ∈ x.above cursor) :
    (x.above (some e.1)).length < (x.above cursor).length := by
  obtain ⟨hmem, habove⟩ := List.mem_filter.1 he
  have hpart : x.above (some e.1) = (x.above cursor).filter fun d => isAbove (some e.1) d.1 := by
    rw [above, above, List.filter_filter]
    refine List.filter_congr fun d _ => ?_
    cases cursor with
    | none => simp [isAbove]
    | some id =>
        simp only [isAbove, Option.all_some, decide_eq_true_eq] at habove ⊢
        rw [← Bool.decide_and]
        exact decide_eq_decide.2 ⟨fun hlt => ⟨hlt, by omega⟩, And.left⟩
  rw [hpart, List.length_filter_lt_length_iff_exists]
  exact ⟨e, he, by simp [isAbove]⟩

/-- A cursor that moves on to a record of its page has less above it, whatever has been written to
the records since. -/
theorem WellFormed.length_above_of_mem_page
    {limit id : Nat}
    {r : LinkRecord}
    (hx : x.WellFormed)
    (hr : r ∈ x.page cursor limit)
    (hid : r.id = some id)
    (hkeys : y.entries.map (·.1) = x.entries.map (·.1)) :
    (y.above (some id)).length < (x.above cursor).length := by
  obtain ⟨e, he, rfl⟩ := mem_above_of_mem_page hr
  have hnumber := hx.numbered e (List.mem_filter.1 he).1
  rw [length_above_of_keys hkeys, ← Option.some.inj (hnumber.symm.trans hid)]
  exact length_above_lt he

/-- Without a cursor no entry has been passed. -/
theorem cut_none
    (x : Index) :
    x.Cut none [] x.entries :=
  ⟨rfl, nofun, fun _ _ => rfl⟩

/-- The last entry of a front part is a cursor between this part and the rest. -/
theorem WellFormed.cut_of_split
    (hx : x.WellFormed)
    (hsplit : x.entries = front ++ back) :
    x.Cut (front.getLast?.map (·.1)) front back := by
  rcases List.eq_nil_or_concat' front with rfl | ⟨init, last, rfl⟩
  · exact ⟨hsplit, nofun, fun _ _ => rfl⟩
  · have hsorted := hx.ascending
    rw [hsplit, List.pairwise_append, List.pairwise_append] at hsorted
    obtain ⟨⟨-, -, hinit⟩, -, hback⟩ := hsorted
    rw [List.getLast?_concat, Option.map_some]
    refine ⟨hsplit, fun e he => ?_, fun e he => ?_⟩
    · simp only [isAbove, Option.all_some, decide_eq_false_iff_not]
      rcases List.mem_append.1 he with he | he
      · have hlt := hinit e he last (by simp)
        omega
      · rw [List.mem_singleton.1 he]
        exact Nat.lt_irrefl _
    · simpa [isAbove] using hback last (by simp) e he

/-- What is above a cursor is the back part. -/
theorem Cut.above_eq
    (h : x.Cut cursor front back) :
    x.above cursor = back := by
  have hfront : front.filter (fun e => isAbove cursor e.1) = [] :=
    List.filter_eq_nil_iff.2 fun e he => by simp [h.passed e he]
  rw [Index.above, h.entries, List.filter_append, hfront, List.filter_eq_self.2 h.above,
    List.nil_append]

/-- A page lists what is above the cursor, from the front on. -/
theorem Cut.page
    (h : x.Cut cursor front back)
    (limit : Nat) :
    x.page cursor limit = (back.take limit).map (·.2) := by
  rw [← h.above_eq]
  rfl

/-- Without the records of a page, an index is parted by the last one of them. -/
theorem Cut.behind_page
    {last : Nat × LinkRecord}
    (hx : x.WellFormed)
    (h : x.Cut cursor front (middle ++ rest))
    (hlast : middle.getLast? = some last) :
    Cut { x with entries := front ++ rest } (some last.1) front rest := by
  obtain ⟨init, rfl⟩ := List.getLast?_eq_some_iff.1 hlast
  have hsorted := hx.ascending
  rw [h.entries, List.append_assoc, List.pairwise_append, List.pairwise_append] at hsorted
  obtain ⟨-, ⟨-, hrest, -⟩, hfront⟩ := hsorted
  refine ⟨rfl, ?_, ?_⟩
  · intro e he
    have hlt := hfront e he last (by simp)
    simp only [isAbove, Option.all_some, decide_eq_false_iff_not]
    omega
  · intro e he
    simpa [isAbove] using (List.pairwise_cons.1 hrest).1 e he

/-- The largest number of a page is that of its last record. -/
theorem Cut.max?_keys
    (hx : x.WellFormed)
    (h : x.Cut cursor front (middle ++ rest)) :
    (middle.map (·.1)).max? = middle.getLast?.map (·.1) := by
  rcases List.eq_nil_or_concat' middle with rfl | ⟨init, last, rfl⟩
  · rfl
  · have hsorted := hx.ascending
    rw [h.entries, List.append_assoc, List.pairwise_append, List.pairwise_append] at hsorted
    obtain ⟨-, ⟨-, -, hinit⟩, -⟩ := hsorted
    rw [List.getLast?_concat, Option.map_some, List.max?_eq_some_iff]
    refine ⟨by simp, fun id hid => ?_⟩
    obtain ⟨e, he, rfl⟩ := List.mem_map.1 hid
    rcases List.mem_append.1 he with he | he
    · exact Nat.le_of_lt (hinit e he last (by simp))
    · exact Nat.le_of_eq (by rw [List.mem_singleton.1 he])

/-- Records between others are removed by their numbers, and nothing else is. -/
theorem WellFormed.delete_middle
    (hx : x.WellFormed)
    (hsplit : x.entries = front ++ middle ++ rest) :
    x.delete ((middle.map (·.2)).filterMap (·.id)) =
      (middle.length, { x with entries := front ++ rest }) := by
  have hids : (middle.map (·.2)).filterMap (·.id) = middle.map (·.1) :=
    hx.ids_of_subset fun e he => by simp [hsplit, he]
  have hkeys := hx.nodup_keys
  rw [hsplit, List.map_append, List.map_append, List.nodup_append, List.nodup_append] at hkeys
  obtain ⟨⟨-, -, hfront⟩, -, hrest⟩ := hkeys
  have hkeep : ∀ es : List (Nat × LinkRecord), (∀ e ∈ es, e.1 ∉ middle.map (·.1)) →
      es.filter (fun e => !(middle.map (·.1)).contains e.1) = es := by
    intro es hes
    exact List.filter_eq_self.2 fun e he => by simpa using hes e he
  have hdrop : middle.filter (fun e => !(middle.map (·.1)).contains e.1) = [] := by
    rw [List.filter_eq_nil_iff]
    intro e he
    simpa using ⟨e.2, he⟩
  have hentries : (middle.map (·.1)).foldl Index.erase x = { x with entries := front ++ rest } := by
    rw [foldl_erase, hsplit, List.filter_append, List.filter_append, hdrop, List.append_nil,
      hkeep front fun e he hmem => hfront _ (List.mem_map_of_mem he) _ hmem rfl,
      hkeep rest fun e he hmem =>
        hrest _ (List.mem_append_right _ hmem) _ (List.mem_map_of_mem he) rfl]
  have hcount : x.count = (front ++ rest).length + middle.length := by
    rw [count, hsplit]
    simp only [List.length_append]
    omega
  rw [hids, Index.delete, hentries, hcount]
  exact Prod.ext (Nat.add_sub_cancel_left _ _) rfl

end Index
end LinkLedger
