import LinkLedger.Proofs.Index.Journal
import LinkLedger.Proofs.Index.WellFormed
import LinkLedger.Proofs.Service.Saving

/-!
# An index and its journal

An index that has only been changed by the services agrees with its journal.  The records created
have the numbers from 1 on, in this order, and every record that is still there stands for what it
stood for when it was created.  No two records stand for the same occurrence, because a record is
created only if the index holds no record for its occurrence.

**Results.**
* `Ledger`: the agreement of an index with its journal.
* `Ledger.create`, `Ledger.update`, `Ledger.delete`: the operations keep it, an update if it writes
  a record that stands for what the stored one stands for.
-/

namespace LinkLedger

/-! ## What records stand for -/

namespace LinkRecord

/-- The occurrence that a record stands for. -/
def occurrence (r : LinkRecord) : LinkRecord :=
  .ofOccurrence r.url r.owner r.field r.language

theorem sameOccurrence_iff_occurrence
    {a b : LinkRecord} :
    a.sameOccurrence b = true ↔ a.occurrence = b.occurrence := by
  rw [sameOccurrence_iff]
  simp [occurrence, ofOccurrence]

@[simp] theorem occurrence_withId
    (r : LinkRecord)
    (id : Option Nat) :
    ({ r with id := id } : LinkRecord).occurrence = r.occurrence :=
  rfl

end LinkRecord

namespace Index

/-- The occurrences of an index under the numbers of their records. -/
def places (x : Index) : List (Nat × LinkRecord) :=
  x.entries.map fun e => (e.1, e.2.occurrence)

theorem occurrences_places
    (x : Index) :
    x.places.map (·.2) = x.records.map (·.occurrence) := by
  simp [places, records]

theorem places_create
    (x : Index)
    (r : LinkRecord) :
    (x.create r).2.places = x.places ++ [(x.last + 1, r.occurrence)] := by
  simp [places, create]

/-- A record that may be written to the index: the one with its number has the same occurrence. -/
def Admits (x : Index) (r : LinkRecord) : Prop :=
  ∀ p ∈ x.places, r.id = some p.1 → p.2 = r.occurrence

theorem WellFormed.admits_of_mem
    {x : Index}
    (hx : x.WellFormed)
    {d r : LinkRecord}
    (hd : d ∈ x.records)
    (hid : r.id = d.id)
    (hsame : r.occurrence = d.occurrence) :
    x.Admits r := by
  intro p hp hpid
  obtain ⟨e, he, rfl⟩ := List.mem_map.1 hp
  obtain ⟨e', he', rfl⟩ := List.mem_map.1 hd
  rw [hid, hx.numbered e' he', Option.some.injEq] at hpid
  rw [hsame, hx.eq_of_id he he' hpid.symm]

/-- Writing such a record moves no occurrence. -/
theorem places_update
    {x y : Index}
    {r : LinkRecord}
    (hadmits : x.Admits r)
    (h : x.update r = .ok y) :
    y.places = x.places := by
  obtain ⟨id, hid, rfl⟩ := eq_of_update h
  rw [places, places, List.map_map]
  refine List.map_congr_left fun e he => ?_
  by_cases hkey : e.1 = id
  · have hsame := hadmits (e.1, e.2.occurrence) (List.mem_map_of_mem he) (hkey ▸ hid)
    simp [hkey, ← hsame]
  · simp [hkey]

theorem last_update
    {x y : Index}
    {r : LinkRecord}
    (h : x.update r = .ok y) :
    y.last = x.last := by
  obtain ⟨id, -, rfl⟩ := eq_of_update h
  rfl

/-! ## The agreement -/

/-- An index as its journal says. -/
structure Ledger (x : Index) (deeds : List Deed) : Prop where
  wellFormed : x.WellFormed
  distinct : (x.places.map (·.2)).Nodup
  numbers : (Deed.creations deeds).map (·.id) = (List.range' 1 x.last).map some
  stems : ∀ p ∈ x.places, ∃ r ∈ Deed.creations deeds, r.id = some p.1 ∧ r.occurrence = p.2

theorem ledger_empty :
    empty.Ledger [] :=
  ⟨wellFormed_empty, by simp [places, empty], by simp [Deed.creations, empty],
    by simp [places, empty]⟩

variable {x : Index} {deeds : List Deed}

/-- A record is created for an occurrence that the index does not hold. -/
theorem Ledger.create
    (hx : x.Ledger deeds)
    {r : LinkRecord}
    (hnew : x.records.any (·.sameOccurrence r) = false) :
    (x.create r).2.Ledger (deeds ++ [.created (x.create r).1]) := by
  have hcreations : Deed.creations (deeds ++ [.created (x.create r).1]) =
      Deed.creations deeds ++ [{ r with id := some (x.last + 1) }] := by
    simp [Deed.creations, Index.create]
  refine ⟨hx.wellFormed.create r, ?_, ?_, ?_⟩
  · rw [places_create, List.map_append, List.nodup_append]
    refine ⟨hx.distinct, List.nodup_singleton _, ?_⟩
    rintro o ho _ hr rfl
    rw [occurrences_places] at ho
    obtain ⟨d, hd, rfl⟩ := List.mem_map.1 ho
    have hsame := List.any_eq_false.1 hnew d hd
    exact hsame (LinkRecord.sameOccurrence_iff_occurrence.2 (by simpa using hr))
  · rw [hcreations, List.map_append, hx.numbers, Index.create, List.range'_concat]
    simp [Nat.add_comm]
  · intro p hp
    rw [places_create, List.mem_append] at hp
    rw [hcreations]
    rcases hp with hp | hp
    · obtain ⟨q, hq, hstem⟩ := hx.stems p hp
      exact ⟨q, List.mem_append_left _ hq, hstem⟩
    · refine ⟨_, List.mem_append_right _ (List.mem_singleton_self _), ?_⟩
      simp [List.mem_singleton.1 hp]

theorem Ledger.update
    (hx : x.Ledger deeds)
    {y : Index}
    {r : LinkRecord}
    (hadmits : x.Admits r)
    (h : x.update r = .ok y) :
    y.Ledger (deeds ++ [.updated r]) := by
  have hcreations : Deed.creations (deeds ++ [.updated r]) = Deed.creations deeds := by
    simp [Deed.creations]
  have hplaces := places_update hadmits h
  refine ⟨hx.wellFormed.update h, hplaces ▸ hx.distinct, ?_, ?_⟩
  · rw [hcreations, last_update h, hx.numbers]
  · rw [hcreations, hplaces]
    exact hx.stems

/-- Numbers of records that are removed are not given again. -/
theorem Ledger.delete
    (hx : x.Ledger deeds)
    (ids : List Nat) :
    (x.delete ids).2.Ledger deeds := by
  have hrest : (x.delete ids).2 =
      { x with entries := x.entries.filter fun e => !ids.contains e.1 } := foldl_erase ids x
  have hfewer : (x.delete ids).2.places.Sublist x.places := by
    rw [hrest]
    exact List.filter_sublist.map _
  refine ⟨hx.wellFormed.delete ids, hx.distinct.sublist (hfewer.map _), ?_,
    fun p hp => hx.stems p (hfewer.subset hp)⟩
  rw [hx.numbers, hrest]

/-! ## What an agreement says -/

theorem Ledger.pairwise_records
    (hx : x.Ledger deeds) :
    x.records.Pairwise fun r q => r.sameOccurrence q = false := by
  have hdistinct := hx.distinct
  rw [occurrences_places, List.Nodup, List.pairwise_map] at hdistinct
  refine hdistinct.imp fun hne => ?_
  rw [← Bool.not_eq_true, LinkRecord.sameOccurrence_iff_occurrence]
  exact hne

theorem Ledger.exists_creation
    (hx : x.Ledger deeds)
    {r : LinkRecord}
    (hr : r ∈ x.records) :
    ∃ q ∈ Deed.creations deeds, q.id = r.id ∧ q.sameOccurrence r = true := by
  obtain ⟨e, he, rfl⟩ := List.mem_map.1 hr
  obtain ⟨q, hq, hid, hsame⟩ := hx.stems (e.1, e.2.occurrence) (List.mem_map_of_mem he)
  exact ⟨q, hq, hid.trans (hx.wellFormed.numbered e he).symm,
    LinkRecord.sameOccurrence_iff_occurrence.2 hsame⟩

/-- Records with one number, now and later, have been created as one record. -/
theorem Ledger.sameOccurrence
    (hx : x.Ledger deeds)
    {y : Index}
    {more : List Deed}
    (hy : y.Ledger more)
    (hdeeds : deeds <+: more)
    {r q : LinkRecord}
    (hr : r ∈ x.records)
    (hq : q ∈ y.records)
    (hid : r.id = q.id) :
    r.sameOccurrence q = true := by
  obtain ⟨r', hr', hrid, hrsame⟩ := hx.exists_creation hr
  obtain ⟨q', hq', hqid, hqsame⟩ := hy.exists_creation hq
  have hlater : r' ∈ Deed.creations more := (hdeeds.filterMap _).subset hr'
  have hnodup : ((Deed.creations more).map (·.id)).Nodup := by
    rw [hy.numbers]
    exact List.Nodup.map (fun _ _ => Option.some.inj) List.nodup_range'
  have hone : r' = q' :=
    List.inj_on_of_nodup_map hnodup hlater hq' (hrid.trans (hid.trans hqid.symm))
  subst hone
  rw [LinkRecord.sameOccurrence_iff_occurrence] at hrsame hqsame ⊢
  exact hrsame.symm.trans hqsame

end Index
end LinkLedger
