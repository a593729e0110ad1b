import LinkLedger.Proofs.Index.WellFormed
import LinkLedger.Service.Save

/-!
# What is saved

Saving takes in, in their order, the records whose occurrences neither the index nor the records in
front of them hold.

**Results.**
* `Index.access_ownedBy` and the like: what access to an index gives.
* `save_access`: saving stores the missing records and gives them with their numbers.
* `missing_eq_nil`: nothing is missing once everything is there.
-/

namespace LinkLedger

/-! ## Access to an index -/

namespace Index

@[simp] theorem access_create
    (r : LinkRecord)
    (x : Index) :
    access.create r x = (.ok (x.create r).1, (x.create r).2) :=
  rfl

@[simp] theorem access_ownedBy
    (owner : Owner)
    (field : Option String)
    (x : Index) :
    access.ownedBy owner field x = (.ok (x.ownedBy owner field), x) :=
  rfl

@[simp] theorem access_delete
    (ids : List Nat)
    (x : Index) :
    access.delete ids x = (.ok (x.delete ids).1, (x.delete ids).2) :=
  rfl

end Index

/-! ## Occurrences -/

namespace LinkRecord

/-- The number of a record does not matter for the occurrence it stands for. -/
@[simp] theorem sameOccurrence_withId
    (a b : LinkRecord)
    (id : Option Nat) :
    ({ a with id := id } : LinkRecord).sameOccurrence b = a.sameOccurrence b :=
  rfl

theorem sameOccurrence_self
    (a : LinkRecord) :
    a.sameOccurrence a = true :=
  (sameOccurrence_iff a a).2 ⟨rfl, rfl, rfl, rfl⟩

/-- An occurrence that an owner's records of its field hold is all that an index can hold. -/
theorem any_ownedBy
    (x : Index)
    (r : LinkRecord) :
    (x.ownedBy r.owner (some r.field)).any (·.sameOccurrence r) =
      x.records.any (·.sameOccurrence r) := by
  rw [Bool.eq_iff_iff, List.any_eq_true, List.any_eq_true]
  constructor
  · rintro ⟨d, hd, hsame⟩
    exact ⟨d, (List.mem_filter.1 hd).1, hsame⟩
  · rintro ⟨d, hd, hsame⟩
    obtain ⟨-, howner, hfield, -⟩ := (sameOccurrence_iff d r).1 hsame
    exact ⟨d, List.mem_filter.2 ⟨hd, by simp [howner, hfield]⟩, hsame⟩

end LinkRecord

namespace Service

/-! ## The missing records -/

/-- The records whose occurrences are not among those known, each occurrence once. -/
def missing (known : List LinkRecord) : List LinkRecord → List LinkRecord
  | [] => []
  | r :: rs =>
      if known.any (·.sameOccurrence r) then missing known rs else r :: missing (r :: known) rs

/-- Only the occurrences among those known matter. -/
theorem missing_congr
    {known known' : List LinkRecord}
    {rs : List LinkRecord}
    (h : ∀ r ∈ rs, known.any (·.sameOccurrence r) = known'.any (·.sameOccurrence r)) :
    missing known rs = missing known' rs := by
  induction rs generalizing known known' with
  | nil => rfl
  | cons r rs ih =>
      have hrest : ∀ q ∈ rs, known.any (·.sameOccurrence q) = known'.any (·.sameOccurrence q) :=
        fun q hq => h q (by simp [hq])
      rw [missing, missing, h r (by simp), ih hrest]
      congr 1
      congr 1
      refine ih fun q hq => ?_
      rw [List.any_cons, List.any_cons, hrest q hq]

theorem mem_of_mem_missing
    {known rs : List LinkRecord}
    {r : LinkRecord}
    (h : r ∈ missing known rs) :
    r ∈ rs := by
  induction rs generalizing known with
  | nil => exact h
  | cons q rs ih =>
      rw [missing] at h
      split at h
      · exact List.mem_cons_of_mem _ (ih h)
      · rcases List.mem_cons.1 h with rfl | h
        · simp
        · exact List.mem_cons_of_mem _ (ih h)

/-- Nothing is missing if every occurrence is known. -/
theorem missing_eq_nil
    {known rs : List LinkRecord}
    (h : ∀ r ∈ rs, known.any (·.sameOccurrence r) = true) :
    missing known rs = [] := by
  induction rs with
  | nil => rfl
  | cons r rs ih =>
      rw [missing, if_pos (h r (by simp)), ih fun q hq => h q (by simp [hq])]

/-- With the missing records every occurrence is known. -/
theorem exists_of_mem
    {known rs : List LinkRecord}
    {r : LinkRecord}
    (h : r ∈ rs) :
    ∃ d, (d ∈ known ∨ d ∈ missing known rs) ∧ d.sameOccurrence r = true := by
  induction rs generalizing known with
  | nil => cases h
  | cons q rs ih =>
      rw [missing]
      by_cases hknown : known.any (·.sameOccurrence q) = true
      · rw [if_pos hknown]
        rcases List.mem_cons.1 h with rfl | h
        · obtain ⟨d, hd, hsame⟩ := List.any_eq_true.1 hknown
          exact ⟨d, Or.inl hd, hsame⟩
        · exact ih h
      · rw [if_neg hknown]
        rcases List.mem_cons.1 h with rfl | h
        · exact ⟨r, Or.inr (by simp), r.sameOccurrence_self⟩
        · have hrest : ∃ d, (d ∈ q :: known ∨ d ∈ missing (q :: known) rs) ∧
              d.sameOccurrence r = true := ih h
          obtain ⟨d, hd, hsame⟩ := hrest
          refine ⟨d, ?_, hsame⟩
          rcases hd with hd | hd
          · rcases List.mem_cons.1 hd with rfl | hd
            · exact Or.inr (by simp)
            · exact Or.inl hd
          · exact Or.inr (by simp [hd])

/-! ## Saving in an index -/

/-- What is looked for among an owner's records and among those created is known to the index or
not. -/
theorem any_known
    {x : Index}
    {created : List LinkRecord}
    (hcreated : ∀ d ∈ created, d ∈ x.records)
    (r : LinkRecord) :
    ((x.ownedBy r.owner (some r.field)).any (·.sameOccurrence r) ||
        created.any (·.sameOccurrence r)) = x.records.any (·.sameOccurrence r) := by
  rw [LinkRecord.any_ownedBy, Bool.eq_iff_iff, Bool.or_eq_true, or_iff_left_iff_imp,
    List.any_eq_true, List.any_eq_true]
  rintro ⟨d, hd, hsame⟩
  exact ⟨d, hcreated d hd, hsame⟩

/-- The new record is in the index like those created before. -/
theorem mem_records_create
    {x : Index}
    {created : List LinkRecord}
    (hcreated : ∀ d ∈ created, d ∈ x.records)
    (r : LinkRecord) :
    ∀ d ∈ (x.create r).1 :: created, d ∈ (x.create r).2.records := by
  intro d hd
  rw [Index.records_create]
  rcases List.mem_cons.1 hd with rfl | hd
  · exact List.mem_append_right _ (List.mem_singleton.2 rfl)
  · exact List.mem_append_left _ (hcreated d hd)

/-- Behind a record that is stored, what is missing is missing behind the record. -/
theorem missing_create
    (x : Index)
    (r : LinkRecord)
    (rs : List LinkRecord) :
    missing (x.create r).2.records rs = missing (r :: x.records) rs := by
  refine missing_congr fun q _ => ?_
  rw [Index.records_create, List.any_append, List.any_cons, Bool.or_comm]
  simp

/--
Saving behind records that have been created stores the missing records and gives them behind
those created before.
-/
theorem saveFrom_access
    {x : Index}
    {created : List LinkRecord}
    (hcreated : ∀ d ∈ created, d ∈ x.records)
    (rs : List LinkRecord) :
    saveFrom Index.access created rs x =
      (.ok (created.reverse ++ Index.stored x.last (missing x.records rs)),
        x.createAll (missing x.records rs)) := by
  induction rs generalizing x created with
  | nil => simp [saveFrom, missing, Index.stored]
  | cons r rs ih =>
      have hload : ((Index.access.ownedBy r.owner (some r.field)).mapFailure Failure.storage) x =
          (.ok (x.ownedBy r.owner (some r.field)), x) :=
        Step.mapFailure_of_ok (Index.access_ownedBy _ _ _)
      rw [saveFrom, Step.bind_of_ok hload, any_known hcreated, missing]
      by_cases hold : x.records.any (·.sameOccurrence r) = true
      · rw [if_pos hold, if_pos hold, ih hcreated]
      · have hcreate : ((Index.access.create r).mapFailure Failure.storage) x =
            (.ok (x.create r).1, (x.create r).2) :=
          Step.mapFailure_of_ok (Index.access_create _ _)
        rw [if_neg hold, if_neg hold, Step.bind_of_ok hcreate, ih (mem_records_create hcreated r),
          missing_create]
        simp [Index.stored, Index.create]

/-- Saving stores the missing records and gives them with their numbers. -/
theorem save_access
    (x : Index)
    (rs : List LinkRecord) :
    save Index.access rs x =
      (.ok (Index.stored x.last (missing x.records rs)), x.createAll (missing x.records rs)) := by
  rw [save, saveFrom_access (by simp)]
  rfl

end Service
end LinkLedger
