import LinkLedger.Proofs.Index.Faults
import LinkLedger.Proofs.Service.Saving

/-!
# Saving again

Saving goes through a list and stores the first record of each occurrence that is not there yet.  A
call that fails on the way has stored what a front of the list lacked.  Saving the list again stores
what is still lacking, under the numbers that it would have got without the failure.

**Results.**
* `missing_eq_firstMissing`: what is missing, said without going through the list.
* `Index.createAll_eq`: what storing records makes of an index.
* `Saving`: how far saving behind faults comes (`saving_saveFrom`).
* `save_again`: saving again comes to the rest.
* `save_completes`: what is saved, at once and after a failure.
-/

namespace LinkLedger

/-! ## Occurrences -/

namespace LinkRecord

/-- Records of one occurrence are the same to every other record. -/
theorem sameOccurrence_congr
    {a b : LinkRecord}
    (h : a.sameOccurrence b = true)
    (r : LinkRecord) :
    a.sameOccurrence r = b.sameOccurrence r := by
  obtain ⟨hurl, howner, hfield, hlanguage⟩ := (sameOccurrence_iff a b).1 h
  rw [sameOccurrence, sameOccurrence, hurl, howner, hfield, hlanguage]

end LinkRecord

namespace Service

/-! ## The missing records -/

/-- The records whose occurrences neither the known records nor those in front of them in the list
have. -/
def firstMissing (known rs : List LinkRecord) : List LinkRecord :=
  (rs.zipIdx.filter fun e =>
    !known.any (·.sameOccurrence e.1) && !(rs.take e.2).any (·.sameOccurrence e.1)).map (·.1)

theorem firstMissing_cons
    (known : List LinkRecord)
    (r : LinkRecord)
    (rs : List LinkRecord) :
    firstMissing known (r :: rs) =
      if known.any (·.sameOccurrence r) then firstMissing (r :: known) rs
      else r :: firstMissing (r :: known) rs := by
  have hrest : ((rs.zipIdx 1).filter fun e => !known.any (·.sameOccurrence e.1) &&
      !((r :: rs).take e.2).any (·.sameOccurrence e.1)).map (·.1) =
        firstMissing (r :: known) rs := by
    rw [List.zipIdx_succ, List.filter_map, List.map_map, firstMissing]
    congr 1
    refine List.filter_congr fun e _ => ?_
    simp only [Function.comp_apply, List.take_succ_cons, List.any_cons, Bool.not_or]
    rw [Bool.and_left_comm, Bool.and_assoc]
  rw [firstMissing, List.zipIdx_cons]
  by_cases hknown : known.any (·.sameOccurrence r) = true
  · rw [if_pos hknown, List.filter_cons_of_neg (by simp [hknown])]
    exact hrest
  · have hnew : known.any (·.sameOccurrence r) = false := Bool.eq_false_iff.2 hknown
    rw [if_neg hknown, List.filter_cons_of_pos (by simp only [hnew]; rfl), List.map_cons]
    exact congrArg _ hrest

/-- The missing records are the first ones of their occurrences. -/
theorem missing_eq_firstMissing
    (known rs : List LinkRecord) :
    missing known rs = firstMissing known rs := by
  induction rs generalizing known with
  | nil => rfl
  | cons r rs ih =>
      rw [missing, firstMissing_cons]
      by_cases hknown : known.any (·.sameOccurrence r) = true
      · -- A record that is known already may as well be known twice.
        obtain ⟨d, hd, hsame⟩ := List.any_eq_true.1 hknown
        have hagain : missing known rs = missing (r :: known) rs := by
          refine missing_congr fun q _ => ?_
          rw [List.any_cons, Bool.eq_iff_iff, Bool.or_eq_true]
          refine ⟨Or.inr, fun h => h.elim (fun hr => ?_) id⟩
          exact List.any_eq_true.2 ⟨d, hd, by rw [LinkRecord.sameOccurrence_congr hsame, hr]⟩
        rw [if_pos hknown, if_pos hknown, hagain, ih]
      · rw [if_neg hknown, if_neg hknown, ih]

/-- What is missing of two lists is missing of the first, and then of the second. -/
theorem missing_append
    (known rs rs' : List LinkRecord) :
    missing known (rs ++ rs') =
      missing known rs ++ missing (missing known rs ++ known) rs' := by
  induction rs generalizing known with
  | nil => rfl
  | cons r rs ih =>
      rw [List.cons_append, missing, missing]
      split
      · exact ih known
      · have hsame : missing (missing (r :: known) rs ++ r :: known) rs' =
            missing (r :: missing (r :: known) rs ++ known) rs' := by
          refine missing_congr fun q _ => ?_
          simp only [List.any_append, List.any_cons, List.cons_append]
          rw [← Bool.or_assoc, ← Bool.or_assoc, Bool.or_comm (r.sameOccurrence q)]
        rw [ih, hsame]
        rfl

end Service

/-! ## Stored records -/

namespace Index

/-- Records under the numbers behind `last`, in their order. -/
def withNumbers (last : Nat) (rs : List LinkRecord) : List (Nat × LinkRecord) :=
  (rs.zipIdx (last + 1)).map fun e => (e.2, { e.1 with id := some e.2 })

theorem withNumbers_cons
    (last : Nat)
    (r : LinkRecord)
    (rs : List LinkRecord) :
    withNumbers last (r :: rs) =
      (last + 1, { r with id := some (last + 1) }) :: withNumbers (last + 1) rs :=
  rfl

theorem stored_eq_withNumbers
    (last : Nat)
    (rs : List LinkRecord) :
    stored last rs = (withNumbers last rs).map (·.2) := by
  induction rs generalizing last with
  | nil => rfl
  | cons r rs ih => rw [stored, ih, withNumbers_cons, List.map_cons]

/-- Storing records puts them behind those that are there. -/
theorem createAll_eq
    (x : Index)
    (rs : List LinkRecord) :
    x.createAll rs = ⟨x.entries ++ withNumbers x.last rs, x.last + rs.length⟩ := by
  induction rs generalizing x with
  | nil => simp [withNumbers]
  | cons r rs ih =>
      have hlast : x.last + 1 + rs.length = x.last + (r :: rs).length := by
        rw [List.length_cons]
        omega
      rw [createAll_cons, ih, create, hlast, withNumbers_cons, List.append_assoc]
      rfl

theorem createAll_append
    (x : Index)
    (rs rs' : List LinkRecord) :
    x.createAll (rs ++ rs') = (x.createAll rs).createAll rs' :=
  List.foldl_append

theorem stored_append
    (last : Nat)
    (rs rs' : List LinkRecord) :
    stored last (rs ++ rs') = stored last rs ++ stored (last + rs.length) rs' := by
  induction rs generalizing last with
  | nil => rfl
  | cons r rs ih =>
      rw [List.cons_append, stored, ih, stored, List.cons_append, List.length_cons,
        Nat.add_assoc last 1, Nat.add_comm 1]

/-- No stored record has the number of a record that was there. -/
theorem WellFormed.id_ne_of_mem_stored
    {x : Index}
    (hx : x.WellFormed)
    {rs : List LinkRecord}
    {d r : LinkRecord}
    (hd : d ∈ x.records)
    (hr : r ∈ stored x.last rs) :
    r.id ≠ d.id := by
  obtain ⟨e, he, rfl⟩ := List.mem_map.1 hd
  rw [stored_eq_withNumbers, withNumbers, List.map_map] at hr
  obtain ⟨⟨q, id⟩, hq, rfl⟩ := List.mem_map.1 hr
  have hbound : e.1 ≤ x.last := hx.bounded e he
  have hid : x.last + 1 ≤ id := List.le_snd_of_mem_zipIdx hq
  intro heq
  have hsame : id = e.1 := Option.some.inj (heq.trans (hx.numbered e he))
  omega

/-- The number that a record is stored under says nothing about its occurrence. -/
theorem any_stored
    (last : Nat)
    (rs : List LinkRecord)
    (r : LinkRecord) :
    (stored last rs).any (·.sameOccurrence r) = rs.any (·.sameOccurrence r) := by
  induction rs generalizing last with
  | nil => rfl
  | cons q rs ih => rw [stored, List.any_cons, List.any_cons, ih, LinkRecord.sameOccurrence_withId]

end Index

namespace Service

/-! ## Saving behind faults -/

/-- Behind the records that saving has stored, the rest of the list is what saving goes on with. -/
theorem missing_createAll
    (x : Index)
    (done rest : List LinkRecord) :
    missing (x.createAll (missing x.records done)).records (done ++ rest) =
      missing (missing x.records done ++ x.records) rest := by
  have hany : ∀ r, (x.createAll (missing x.records done)).records.any (·.sameOccurrence r) =
      (missing x.records done ++ x.records).any (·.sameOccurrence r) := by
    intro r
    rw [Index.records_createAll, List.any_append, List.any_append, Index.any_stored, Bool.or_comm]
  have hdone : missing (missing x.records done ++ x.records) done = [] := by
    refine missing_eq_nil fun r hr => ?_
    have hthere : ∃ d, (d ∈ x.records ∨ d ∈ missing x.records done) ∧
        d.sameOccurrence r = true := exists_of_mem hr
    obtain ⟨d, hd, hsame⟩ := hthere
    exact List.any_eq_true.2 ⟨d, List.mem_append.2 hd.symm, hsame⟩
  rw [missing_congr fun r _ => hany r, missing_append, hdone, List.nil_append, List.nil_append]

/-- Storing what a front of a list lacks and then what the list still lacks stores what it lacks. -/
theorem createAll_missing
    (x : Index)
    (done rest : List LinkRecord) :
    (x.createAll (missing x.records done)).createAll
        (missing (x.createAll (missing x.records done)).records (done ++ rest)) =
      x.createAll (missing x.records (done ++ rest)) := by
  rw [missing_createAll, ← Index.createAll_append, ← missing_append]

/-- All that saving behind faults can come to: the list is saved, or a front of it. -/
inductive Saving (created rs : List LinkRecord) (st : Fallible) :
    Except Failure (List LinkRecord) × Fallible → Prop where
  | finished
      (faults : List ArmedFault) :
      Saving created rs st
        (.ok (created.reverse ++ Index.stored st.index.last (missing st.index.records rs)),
          { st with index := st.index.createAll (missing st.index.records rs), faults := faults })
  | failed
      (text : String)
      (done rest : List LinkRecord)
      (hsplit : rs = done ++ rest)
      (faults : List ArmedFault) :
      Saving created rs st
        (.error (.storage text),
          { st with index := st.index.createAll (missing st.index.records done), faults := faults })

section Outcomes

variable {st : Fallible} {created rs : List LinkRecord} {r : LinkRecord} {faults : List ArmedFault}
variable {result : Except Failure (List LinkRecord) × Fallible}

/-- A call that fails leaves the whole list to be saved. -/
theorem Saving.refused
    (text : String) :
    Saving created rs st (.error (.storage text), { st with faults := faults }) :=
  .failed text [] rs rfl faults

/-- Nothing happens to a record that is known. -/
theorem Saving.skip
    (hknown : st.index.records.any (·.sameOccurrence r) = true)
    (h : Saving created rs { st with faults := faults } result) :
    Saving created (r :: rs) st result := by
  have hmissing : ∀ qs, missing st.index.records (r :: qs) = missing st.index.records qs :=
    fun qs => by rw [missing, if_pos hknown]
  cases h with
  | finished faults' =>
      have hall : Saving created (r :: rs) st _ := .finished faults'
      rwa [hmissing] at hall
  | failed text done rest hsplit faults' =>
      have hfront : Saving created (r :: rs) st _ :=
        .failed text (r :: done) rest (congrArg (r :: ·) hsplit) faults'
      rwa [hmissing] at hfront

/-- A record that is not known is stored in front of those that are saved behind it. -/
theorem Saving.create
    (hnew : ¬ st.index.records.any (·.sameOccurrence r) = true)
    (h : Saving ((st.index.create r).1 :: created) rs
      { st with index := (st.index.create r).2, faults := faults } result) :
    Saving created (r :: rs) st result := by
  have hmissing : ∀ qs, missing st.index.records (r :: qs) =
      r :: missing (st.index.create r).2.records qs :=
    fun qs => by rw [missing, if_neg hnew, missing_create]
  cases h with
  | finished faults' =>
      have hall : Saving created (r :: rs) st _ := .finished faults'
      rw [hmissing, Index.createAll_cons, Index.stored] at hall
      rw [List.reverse_cons, List.append_assoc]
      exact hall
  | failed text done rest hsplit faults' =>
      have hfront : Saving created (r :: rs) st _ :=
        .failed text (r :: done) rest (congrArg (r :: ·) hsplit) faults'
      rwa [hmissing, Index.createAll_cons] at hfront

/-- Saving behind faults comes to one of the two. -/
theorem saving_saveFrom
    (hshown : st.hidden = false)
    (hcreated : ∀ d ∈ created, d ∈ st.index.records) :
    Saving created rs st (saveFrom Fallible.access created rs st) := by
  induction rs generalizing st created with
  | nil =>
      have hall : Saving created [] st _ := .finished st.faults
      rwa [missing, Index.stored, List.append_nil] at hall
  | cons r rs ih =>
      rw [saveFrom]
      obtain ⟨faults, -, ⟨-, text, hfail⟩ | hload⟩ :=
        Fallible.ownedBy_cases hshown r.owner (some r.field)
      · rw [Step.bind_of_error (Step.mapFailure_of_error hfail)]
        exact .refused text
      · rw [Step.bind_of_ok (Step.mapFailure_of_ok hload), any_known hcreated]
        by_cases hknown : st.index.records.any (·.sameOccurrence r) = true
        · rw [if_pos hknown]
          exact .skip hknown (ih hshown hcreated)
        · rw [if_neg hknown]
          obtain ⟨faults', -, ⟨-, text, hfail⟩ | hcreate⟩ :=
            Fallible.create_cases r { st with faults := faults }
          · rw [Step.bind_of_error (Step.mapFailure_of_error hfail)]
            exact .refused text
          · rw [Step.bind_of_ok (Step.mapFailure_of_ok hcreate)]
            exact .create hknown (ih hshown (mem_records_create hcreated r))

end Outcomes

/-- Without faults saving is what it is on the index alone. -/
theorem mirrors_saveFrom
    (created rs : List LinkRecord) :
    Fallible.Mirrors (saveFrom Fallible.access created rs) (saveFrom Index.access created rs) := by
  induction rs generalizing created with
  | nil => exact .pure _
  | cons r rs ih =>
      refine ((Fallible.mirrors_ownedBy r.owner (some r.field)).mapFailure _).bind
        fun existing => ?_
      dsimp only
      split
      · exact ih created
      · exact ((Fallible.mirrors_create r).mapFailure _).bind fun saved => ih (saved :: created)

/-- Without faults the list is saved. -/
theorem save_calm
    {st : Fallible}
    (hshown : st.hidden = false)
    (rs : List LinkRecord) :
    save Fallible.access rs st.calm =
      (.ok (Index.stored st.index.last (missing st.index.records rs)),
        { st.calm with index := st.index.createAll (missing st.index.records rs) }) := by
  have hmirrors := mirrors_saveFrom [] rs hshown
  rwa [← save, ← save, save_access] at hmirrors

/-- Saving a list again behind a failure saves what the failure left, under the numbers that it
would have got without the failure. -/
theorem save_again
    {st st' : Fallible}
    {e : Failure}
    {rs : List LinkRecord}
    (hshown : st.hidden = false)
    (hfail : save Fallible.access rs st = (.error e, st')) :
    e.isRetryable = true ∧
      ∃ made left,
        Index.stored st.index.last (missing st.index.records rs) = made ++ left ∧
        st'.index.records = st.index.records ++ made ∧
        save Fallible.access rs st'.calm =
          (.ok left,
            { st.calm with index := st.index.createAll (missing st.index.records rs) }) := by
  have houtcome : Saving [] rs st (save Fallible.access rs st) :=
    saving_saveFrom hshown (by simp)
  rw [hfail] at houtcome
  cases houtcome with
  | failed text done rest hsplit faults =>
      subst hsplit
      have hleft : Index.stored st.index.last (missing st.index.records (done ++ rest)) =
          Index.stored st.index.last (missing st.index.records done) ++
            Index.stored (st.index.createAll (missing st.index.records done)).last
              (missing (st.index.createAll (missing st.index.records done)).records
                (done ++ rest)) := by
        rw [missing_createAll, missing_append, Index.stored_append, Index.createAll_eq]
      refine ⟨rfl, _, _, hleft, Index.records_createAll _ _, ?_⟩
      rw [save_calm, createAll_missing]
      · rfl
      · exact hshown

/--
Saving stores, in the order of the list, the first record of each occurrence that the index lacks.
The records are stored behind those that are there, under new numbers and otherwise as they are,
and saving the list again stores nothing.  When a call of the index fails, what has been saved is a
front of what was to be saved, and saving the list again saves the rest, with the index that saving
without the failure comes to.
-/
theorem save_completes
    {st : Fallible}
    (hx : st.index.WellFormed)
    (hshown : st.hidden = false)
    (rs : List LinkRecord) :
    let x := st.index
    let new := firstMissing x.records rs
    let created := (Index.withNumbers x.last new).map (·.2)
    let y : Index := ⟨x.entries ++ Index.withNumbers x.last new, x.last + new.length⟩
    save Index.access rs x = (.ok created, y) ∧
      (∀ r ∈ created, ∀ d ∈ x.records, r.id ≠ d.id) ∧
      save Index.access rs y = (.ok [], y) ∧
      ∀ e st', save Fallible.access rs st = (.error e, st') →
        e.isRetryable = true ∧
          ∃ made left, created = made ++ left ∧ st'.index.records = x.records ++ made ∧
            save Fallible.access rs st'.calm = (.ok left, { st.calm with index := y }) := by
  intro x new created y
  have hnew : missing x.records rs = new := missing_eq_firstMissing _ _
  have hcreated : Index.stored x.last (missing x.records rs) = created := by
    rw [hnew, Index.stored_eq_withNumbers]
  have hy : x.createAll (missing x.records rs) = y := by
    rw [hnew, Index.createAll_eq]
  have hdone : missing y.records rs = [] := by
    have hrest := missing_createAll x rs []
    rwa [List.append_nil, hy] at hrest
  refine ⟨?_, ?_, ?_, ?_⟩
  · rw [save_access, hcreated, hy]
  · intro r hr d hd
    exact hx.id_ne_of_mem_stored hd (hcreated ▸ hr)
  · rw [save_access, hdone]
    rfl
  · intro e st' hfail
    obtain ⟨hretry, made, left, hsplit, hrecords, hagain⟩ := save_again hshown hfail
    exact ⟨hretry, made, left, hcreated.symm.trans hsplit, hrecords, hy ▸ hagain⟩

/-- The second of three records, the first of which is given twice, is refused.  Saving again saves
the two that are left under their numbers. -/
theorem save_completes_behind_refusal :
    let r (url : String) : LinkRecord := .ofOccurrence url ⟨"node", "1"⟩ "body" "en"
    let rs := [r "http://a/", r "http://a/", r "http://b/", r "http://c/"]
    let st : Fallible := ⟨.empty, [], [⟨.create, some "full", 1⟩], false⟩
    st.index.WellFormed ∧ st.hidden = false ∧
      ∃ st' left y, save Fallible.access rs st = (.error (.storage "full"), st') ∧
        st'.index.records.map (·.url) = ["http://a/"] ∧
        save Fallible.access rs st'.calm = (.ok left, { st.calm with index := y }) ∧
        left.map (·.id) = [some 2, some 3] ∧
        y.records.map (·.url) = ["http://a/", "http://b/", "http://c/"] := by
  intro r rs st
  obtain ⟨-, -, -, hretry⟩ := @save_completes st Index.wellFormed_empty rfl rs
  obtain ⟨-, made, left, hsplit, hrecords, hagain⟩ := hretry _ _ rfl
  have hmade : made = [{ r "http://a/" with id := some 1 }] := hrecords.symm
  have hleft :
      left = [{ r "http://b/" with id := some 2 }, { r "http://c/" with id := some 3 }] := by
    rw [hmade] at hsplit
    exact (List.cons.inj hsplit).2.symm
  refine ⟨Index.wellFormed_empty, rfl, _, left, _, rfl, rfl, hagain, ?_, rfl⟩
  rw [hleft]
  rfl

end Service
end LinkLedger
