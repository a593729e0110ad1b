import LinkLedger.Index.Basic
import Mathlib.Data.List.Nodup

/-!
# The states of an index

Every index that the operations can make lists its records under their own numbers, in ascending
order, none above the last number given.  On such an index, removing records by their numbers is
leaving them out, and nothing else.

**Results.**
* `WellFormed`: the invariant; `wellFormed_empty`, `WellFormed.create`, `WellFormed.update` and
  `WellFormed.delete`: all operations keep it.
* `eq_of_update`, `numbers_update`: what an update does, and what it leaves.
* `delete_ids`: the records that satisfy a test are removed by their numbers.
* `count_delete`, `WellFormed.delete_page_pos`: what removing a page does to the number of records.
* `restrict_createAll`: leaving records out and taking others in commute.
* `WellFormed.insert`, `count_insert`: taking a record in under a number that has been drawn;
  `WellFormed.create_eq`: a creation is a draw and an insertion.
-/

namespace LinkLedger
namespace Index

/-- Records are listed under their own numbers, in ascending order, up to the last one given. -/
structure WellFormed (x : Index) : Prop where
  ascending : x.entries.Pairwise fun a b => a.1 < b.1
  numbered : ∀ e ∈ x.entries, e.2.id = some e.1
  bounded : ∀ e ∈ x.entries, e.1 ≤ x.last

/-! ## The operations keep the invariant -/

theorem wellFormed_empty :
    WellFormed empty :=
  ⟨List.Pairwise.nil, by simp [empty], by simp [empty]⟩

theorem WellFormed.create
    {x : Index}
    (hx : x.WellFormed)
    (r : LinkRecord) :
    (x.create r).2.WellFormed := by
  refine ⟨?_, ?_, ?_⟩
  · refine List.pairwise_append.2 ⟨hx.ascending, List.pairwise_singleton _ _, ?_⟩
    intro a ha b hb
    rw [List.mem_singleton.1 hb]
    exact Nat.lt_succ_of_le (hx.bounded a ha)
  · intro e he
    rcases List.mem_append.1 he with he | he
    · exact hx.numbered e he
    · rw [List.mem_singleton.1 he]
  · intro e he
    rcases List.mem_append.1 he with he | he
    · exact Nat.le_succ_of_le (hx.bounded e he)
    · rw [List.mem_singleton.1 he]
      exact Nat.le_refl _

/-- Leaving out entries keeps the invariant. -/
theorem WellFormed.sublist
    {x : Index}
    (hx : x.WellFormed)
    {es : List (Nat × LinkRecord)}
    (h : es.Sublist x.entries) :
    WellFormed { x with entries := es } :=
  ⟨hx.ascending.sublist h, fun e he => hx.numbered e (h.subset he),
    fun e he => hx.bounded e (h.subset he)⟩

theorem WellFormed.filter
    {x : Index}
    (hx : x.WellFormed)
    (p : Nat × LinkRecord → Bool) :
    WellFormed { x with entries := x.entries.filter p } :=
  hx.sublist List.filter_sublist

theorem WellFormed.erase
    {x : Index}
    (hx : x.WellFormed)
    (id : Nat) :
    (x.erase id).WellFormed :=
  hx.filter _

theorem WellFormed.delete
    {x : Index}
    (hx : x.WellFormed)
    (ids : List Nat) :
    (x.delete ids).2.WellFormed := by
  change (ids.foldl Index.erase x).WellFormed
  induction ids generalizing x with
  | nil => exact hx
  | cons id ids ih => exact ih (hx.erase id)

/-- What an update does: it writes under the number of the record. -/
theorem eq_of_update
    {x y : Index}
    {r : LinkRecord}
    (h : x.update r = .ok y) :
    ∃ id, r.id = some id ∧
      y = { x with entries := x.entries.map fun e => if e.1 = id then (id, r) else e } := by
  unfold Index.update at h
  split at h
  · cases h
  · next id hid =>
    split at h
    · exact ⟨id, hid, (Except.ok.inj h).symm⟩
    · cases h

/-- An update changes no number. -/
theorem numbers_update
    {x y : Index}
    {r : LinkRecord}
    (h : x.update r = .ok y) :
    y.entries.map (·.1) = x.entries.map (·.1) := by
  obtain ⟨id, -, rfl⟩ := eq_of_update h
  rw [List.map_map]
  refine List.map_congr_left fun e _ => ?_
  by_cases he : e.1 = id
  · simp [he]
  · simp [he]

theorem WellFormed.update
    {x y : Index}
    (hx : x.WellFormed)
    {r : LinkRecord}
    (h : x.update r = .ok y) :
    y.WellFormed := by
  have hnumbers := numbers_update h
  obtain ⟨id, hid, rfl⟩ := eq_of_update h
  refine ⟨?_, ?_, ?_⟩
  · have hsorted := List.pairwise_map.2 hx.ascending
    rw [← hnumbers] at hsorted
    exact List.pairwise_map.1 hsorted
  · intro e he
    obtain ⟨d, hd, rfl⟩ := List.mem_map.1 he
    split
    · exact hid
    · exact hx.numbered d hd
  · intro e he
    have hmem := List.mem_map_of_mem (f := Prod.fst) he
    rw [hnumbers] at hmem
    obtain ⟨d, hd, hsame⟩ := List.mem_map.1 hmem
    rw [← hsame]
    exact hx.bounded d hd

/-! ## Leaving records out -/

/-- The index with only the records that satisfy a test. -/
def restrict (x : Index) (p : LinkRecord → Bool) : Index :=
  { x with entries := x.entries.filter fun e => p e.2 }

@[simp] theorem records_restrict
    (x : Index)
    (p : LinkRecord → Bool) :
    (x.restrict p).records = x.records.filter p := by
  rw [records, records, List.filter_map]
  rfl

theorem WellFormed.restrict
    {x : Index}
    (hx : x.WellFormed)
    (p : LinkRecord → Bool) :
    (x.restrict p).WellFormed :=
  hx.filter _

/-- An index keeps all its records if all satisfy the test. -/
theorem restrict_eq_self
    {x : Index}
    {p : LinkRecord → Bool}
    (h : ∀ r ∈ x.records, p r = true) :
    x.restrict p = x := by
  have hall : x.entries.filter (fun e => p e.2) = x.entries :=
    List.filter_eq_self.2 fun e he => h e.2 (List.mem_map_of_mem he)
  rw [Index.restrict, hall]

/-- What is left out and what stays make up the index. -/
theorem count_restrict
    (x : Index)
    (p : LinkRecord → Bool) :
    (x.restrict fun r => !p r).count + (x.records.filter p).length = x.count := by
  have hlength := List.length_eq_countP_add_countP p (l := x.records)
  have hstay : (x.restrict fun r => !p r).count = (x.records.filter fun r => !p r).length := by
    rw [← records_restrict, records, List.length_map, count]
  rw [hstay, ← List.countP_eq_length_filter, ← List.countP_eq_length_filter, count,
    ← List.length_map (f := (·.2)), ← records, hlength, Nat.add_comm]
  simp

/-- Removing records by their numbers leaves out the entries with these numbers. -/
theorem foldl_erase
    (ids : List Nat)
    (x : Index) :
    ids.foldl erase x = { x with entries := x.entries.filter fun e => !ids.contains e.1 } := by
  induction ids generalizing x with
  | nil =>
      have hall : x.entries.filter (fun e => !([] : List Nat).contains e.1) = x.entries :=
        List.filter_eq_self.2 fun _ _ => rfl
      rw [List.foldl_nil, hall]
  | cons id ids ih =>
      rw [List.foldl_cons, ih, erase]
      simp only [List.filter_filter, List.contains_cons, Bool.not_or, Bool.and_comm, bne]

theorem WellFormed.nodup_keys
    {x : Index}
    (hx : x.WellFormed) :
    (x.entries.map (·.1)).Nodup :=
  List.pairwise_map.2 (hx.ascending.imp Nat.ne_of_lt)

/-- A number stands for one entry. -/
theorem WellFormed.eq_of_id
    {x : Index}
    (hx : x.WellFormed)
    {d e : Nat × LinkRecord}
    (hd : d ∈ x.entries)
    (he : e ∈ x.entries)
    (h : d.1 = e.1) :
    d = e :=
  List.inj_on_of_nodup_map hx.nodup_keys hd he h

/-- Entries of an index carry the numbers that they stand under. -/
theorem WellFormed.ids_of_subset
    {x : Index}
    (hx : x.WellFormed)
    {es : List (Nat × LinkRecord)}
    (hes : ∀ e ∈ es, e ∈ x.entries) :
    (es.map (·.2)).filterMap (·.id) = es.map (·.1) := by
  rw [List.filterMap_map, ← List.filterMap_eq_map]
  exact List.filterMap_congr fun e he => hx.numbered e (hes e he)

/-- The numbers of the records that satisfy a test belong to no other record. -/
theorem WellFormed.contains_ids
    {x : Index}
    (hx : x.WellFormed)
    (p : LinkRecord → Bool)
    {e : Nat × LinkRecord}
    (he : e ∈ x.entries) :
    ((x.records.filter p).filterMap (·.id)).contains e.1 = p e.2 := by
  rw [Bool.eq_iff_iff, List.contains_iff_mem, List.mem_filterMap]
  constructor
  · rintro ⟨r, hr, hid⟩
    obtain ⟨hmem, hp⟩ := List.mem_filter.1 hr
    obtain ⟨d, hd, rfl⟩ := List.mem_map.1 hmem
    rw [hx.numbered d hd] at hid
    rw [← hx.eq_of_id hd he (Option.some.inj hid)]
    exact hp
  · intro hp
    exact ⟨e.2, List.mem_filter.2 ⟨List.mem_map_of_mem he, hp⟩, hx.numbered e he⟩

/-- Every record has a number. -/
theorem WellFormed.length_ids
    {x : Index}
    (hx : x.WellFormed)
    {rs : List LinkRecord}
    (hrs : ∀ r ∈ rs, r ∈ x.records) :
    (rs.filterMap (·.id)).length = rs.length := by
  induction rs with
  | nil => rfl
  | cons r rs ih =>
      obtain ⟨e, he, rfl⟩ := List.mem_map.1 (hrs r (by simp))
      rw [List.filterMap_cons_some (hx.numbered e he), List.length_cons, List.length_cons,
        ih fun q hq => hrs q (by simp [hq])]

/-- The records that satisfy a test are removed by their numbers, and no others. -/
theorem WellFormed.delete_ids
    {x : Index}
    (hx : x.WellFormed)
    (p : LinkRecord → Bool) :
    x.delete ((x.records.filter p).filterMap (·.id)) =
      ((x.records.filter p).length, x.restrict fun r => !p r) := by
  have hrest : ((x.records.filter p).filterMap (·.id)).foldl Index.erase x =
      x.restrict fun r => !p r := by
    rw [foldl_erase, Index.restrict]
    congr 1
    refine List.filter_congr fun e he => ?_
    rw [hx.contains_ids p he]
  rw [Index.delete, hrest, ← x.count_restrict p, Nat.add_sub_cancel_left]

/-! ## Removing a page -/

/-- What is removed and what stays make up what was there. -/
theorem count_delete
    (x : Index)
    (ids : List Nat) :
    (x.delete ids).2.count + (x.delete ids).1 = x.count := by
  have hle : (ids.foldl Index.erase x).count ≤ x.count := by
    rw [foldl_erase]
    exact List.length_filter_le _ _
  exact Nat.add_sub_cancel' hle

theorem mem_of_mem_page
    {x : Index}
    {after : Option Nat}
    {limit : Nat}
    {r : LinkRecord}
    (h : r ∈ x.page after limit) :
    ∃ e ∈ x.entries, e.2 = r := by
  obtain ⟨e, he, heq⟩ := List.mem_map.1 h
  exact ⟨e, (List.mem_filter.1 (List.mem_of_mem_take he)).1, heq⟩

/-- A page from the front is empty only if there are no records. -/
theorem count_of_page_eq_nil
    {x : Index}
    {limit : Nat}
    (hlimit : 1 ≤ limit)
    (h : x.page none limit = []) :
    x.count = 0 := by
  have hall : (x.entries.filter fun e => (none : Option Nat).all fun id => id < e.1) = x.entries :=
    List.filter_eq_self.2 fun _ _ => rfl
  rw [page, hall, List.map_eq_nil_iff, List.take_eq_nil_iff] at h
  rcases h with h | h
  · omega
  · rw [count, h]
    rfl

/-- Removing leaves the entries with other numbers. -/
theorem entries_delete
    (x : Index)
    (ids : List Nat) :
    (x.delete ids).2.entries = x.entries.filter fun e => !ids.contains e.1 := by
  rw [delete, foldl_erase]

@[simp] theorem delete_nil
    (x : Index) :
    x.delete [] = (0, x) :=
  Prod.ext (Nat.sub_self x.count) rfl

/-- Removing the number of a record removes some. -/
theorem delete_pos
    {x : Index}
    {ids : List Nat}
    {e : Nat × LinkRecord}
    (he : e ∈ x.entries)
    (hid : e.1 ∈ ids) :
    0 < (x.delete ids).1 := by
  have hless : (ids.foldl Index.erase x).count < x.count := by
    rw [foldl_erase]
    refine Nat.lt_of_le_of_ne (List.length_filter_le _ _) fun hsame => ?_
    have hkept := List.length_filter_eq_length_iff.1 hsame e he
    rw [Bool.not_eq_true', List.contains_eq_mem, decide_eq_false_iff_not] at hkept
    exact hkept hid
  exact Nat.sub_pos_of_lt hless

/-- Removing a page that has records removes some. -/
theorem WellFormed.delete_page_pos
    {x : Index}
    (hx : x.WellFormed)
    {after : Option Nat}
    {limit : Nat}
    (h : x.page after limit ≠ []) :
    0 < (x.delete ((x.page after limit).filterMap (·.id))).1 := by
  obtain ⟨r, hr⟩ := List.exists_mem_of_ne_nil _ h
  obtain ⟨e, he, rfl⟩ := mem_of_mem_page hr
  exact delete_pos he (List.mem_filterMap.2 ⟨e.2, hr, hx.numbered e he⟩)

/-! ## Taking records in -/

/-- Records as an index stores them behind the number `last`. -/
def stored (last : Nat) : List LinkRecord → List LinkRecord
  | [] => []
  | r :: rs => { r with id := some (last + 1) } :: stored (last + 1) rs

/-- The index with more records, each under the next number. -/
def createAll (x : Index) (rs : List LinkRecord) : Index :=
  rs.foldl (fun x r => (x.create r).2) x

@[simp] theorem createAll_nil
    (x : Index) :
    x.createAll [] = x :=
  rfl

@[simp] theorem createAll_cons
    (x : Index)
    (r : LinkRecord)
    (rs : List LinkRecord) :
    x.createAll (r :: rs) = (x.create r).2.createAll rs :=
  rfl

theorem records_create
    (x : Index)
    (r : LinkRecord) :
    (x.create r).2.records = x.records ++ [{ r with id := some (x.last + 1) }] := by
  simp [create, records]

theorem records_createAll
    (x : Index)
    (rs : List LinkRecord) :
    (x.createAll rs).records = x.records ++ stored x.last rs := by
  induction rs generalizing x with
  | nil => simp [stored]
  | cons r rs ih =>
      rw [createAll_cons, ih, records_create, stored, List.append_assoc]
      rfl

theorem WellFormed.createAll
    {x : Index}
    (hx : x.WellFormed)
    (rs : List LinkRecord) :
    (x.createAll rs).WellFormed := by
  induction rs generalizing x with
  | nil => exact hx
  | cons r rs ih => exact ih (hx.create r)

/-- A stored record is one of those that were to be stored, apart from its number. -/
theorem exists_of_mem_stored
    {last : Nat}
    {rs : List LinkRecord}
    {q : LinkRecord}
    (h : q ∈ stored last rs) :
    ∃ r ∈ rs, ∃ id, q = { r with id := some id } := by
  induction rs generalizing last with
  | nil => cases h
  | cons r rs ih =>
      rcases List.mem_cons.1 h with rfl | h
      · exact ⟨r, by simp, last + 1, rfl⟩
      · obtain ⟨r', hr', hq⟩ := ih h
        exact ⟨r', by simp [hr'], hq⟩

theorem mem_stored
    (last : Nat)
    {rs : List LinkRecord}
    {r : LinkRecord}
    (h : r ∈ rs) :
    ∃ id, { r with id := some id } ∈ stored last rs := by
  induction rs generalizing last with
  | nil => cases h
  | cons r' rs ih =>
      rcases List.mem_cons.1 h with rfl | h
      · exact ⟨last + 1, by simp [stored]⟩
      · obtain ⟨id, hid⟩ := ih (last + 1) h
        exact ⟨id, by simp [stored, hid]⟩

/--
Leaving records out and taking others in commute if the test lets those taken in pass, under
whatever number.
-/
theorem restrict_createAll
    (x : Index)
    {p : LinkRecord → Bool}
    {rs : List LinkRecord}
    (h : ∀ r ∈ rs, ∀ id, p { r with id := some id } = true) :
    (x.createAll rs).restrict p = (x.restrict p).createAll rs := by
  induction rs generalizing x with
  | nil => rfl
  | cons r rs ih =>
      have hcreate : (x.create r).2.restrict p = ((x.restrict p).create r).2 := by
        simp [create, restrict, h r (by simp) (x.last + 1)]
      rw [createAll_cons, ih _ fun q hq => h q (by simp [hq]), hcreate, createAll_cons]

/-! ## A creation in two steps -/

theorem WellFormed.draw
    {x : Index}
    (hx : x.WellFormed) :
    x.draw.2.WellFormed :=
  ⟨hx.ascending, hx.numbered, fun e he => Nat.le_succ_of_le (hx.bounded e he)⟩

theorem mem_insert
    {x : Index}
    {id : Nat}
    {r : LinkRecord}
    {e : Nat × LinkRecord} :
    e ∈ (x.insert id r).2.entries ↔
      e = (id, { r with id := some id }) ∨ e ∈ x.entries ∧ e.1 ≠ id := by
  simp only [insert, List.mem_append, List.mem_cons, List.mem_filter, decide_eq_true_eq,
    Nat.ne_iff_lt_or_gt]
  grind

/-- Taking in a record under a number that has been drawn keeps the invariant. -/
theorem WellFormed.insert
    {x : Index}
    (hx : x.WellFormed)
    {id : Nat}
    (hid : id ≤ x.last)
    (r : LinkRecord) :
    (x.insert id r).2.WellFormed := by
  refine ⟨?_, fun e he => ?_, fun e he => ?_⟩
  · refine List.pairwise_append.2 ⟨hx.ascending.sublist List.filter_sublist,
      List.pairwise_cons.2 ⟨fun e he => ?_, hx.ascending.sublist List.filter_sublist⟩,
      fun d hd e he => ?_⟩
    · simpa using (List.mem_filter.1 he).2
    · have hfront : d.1 < id := by simpa using (List.mem_filter.1 hd).2
      rcases List.mem_cons.1 he with rfl | he
      · exact hfront
      · exact Nat.lt_trans hfront (by simpa using (List.mem_filter.1 he).2)
  · rcases mem_insert.1 he with rfl | ⟨he, -⟩
    · rfl
    · exact hx.numbered e he
  · rcases mem_insert.1 he with rfl | ⟨he, -⟩
    · exact hid
    · exact hx.bounded e he

/-- A record under a new number is one more. -/
theorem count_insert
    {x : Index}
    {id : Nat}
    (hid : ∀ e ∈ x.entries, e.1 ≠ id)
    (r : LinkRecord) :
    (x.insert id r).2.count = x.count + 1 := by
  have hback : (x.entries.filter fun e => id < e.1) =
      x.entries.filter fun e => !decide (e.1 < id) := by
    refine List.filter_congr fun e he => ?_
    have hne := hid e he
    grind
  have hparts := x.entries.length_eq_length_filter_add fun e => decide (e.1 < id)
  rw [insert, count, List.length_append, List.length_cons, hback, count, hparts]
  rfl

/-- A record that is taken in gets the next number and is put under it. -/
theorem WellFormed.create_eq
    {x : Index}
    (hx : x.WellFormed)
    (r : LinkRecord) :
    x.create r = x.draw.2.insert x.draw.1 r := by
  have hfront : (x.entries.filter fun e => e.1 < x.last + 1) = x.entries :=
    List.filter_eq_self.2 fun e he => by simpa using Nat.lt_succ_of_le (hx.bounded e he)
  have hback : (x.entries.filter fun e => x.last + 1 < e.1) = [] :=
    List.filter_eq_nil_iff.2 fun e he => by
      simpa using Nat.le_succ_of_le (hx.bounded e he)
  rw [Index.create, Index.insert, Index.draw]
  dsimp only
  rw [hfront, hback]

end Index
end LinkLedger
