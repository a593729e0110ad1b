import LinkLedger.Proofs.CleanUp.Pass

/-!
# Keeping the records of content

A pass removes the stale records of content, and saving adds those that the index lacks.  The two
do not get in each other's way: the records of the links that content has are never stale, and no
stale record stands for a link that content has.

**Results.**
* `removes_contentRecords`: the records of content are never removed.
* `cleanUp_save_access`, `save_cleanUp_access`: what the two do together.
* `Settled`: the index has the records of content and no others of its owner; `Settled.upkeep`:
  nothing is left to do then.
* `upkeep_reconciles`: in either order the two lead to one settled index.
-/

namespace LinkLedger
namespace Service

/-- What is done about the records of content. -/
inductive Upkeep where
  | cleanUp
  | save
  deriving DecidableEq, Repr

/-- Does it; gives the number of the records that went and those that came. -/
def upkeep {σ : Type} (s : Service) (a : Access σ) (c : ContentView) :
    Upkeep → Step Failure σ (Nat × List LinkRecord)
  | .cleanUp => do
      let report ← s.cleanUp a c
      pure (report.deleted, [])
  | .save => do
      let created ← s.saveContent a c
      pure (0, created)

section Reconciliation

variable {s : Service} {c : Content} {x : Index}

/-! ## Records of content and stale records -/

/-- The records of content are never removed. -/
theorem removes_contentRecords
    (hlive : c.isLive = true)
    (haddress : PlainAddresses s c)
    {r : LinkRecord}
    (h : r ∈ s.contentRecords c) :
    s.removes c r = false := by
  obtain ⟨field, language, url, hurl, rfl⟩ := mem_contentRecords.1 h
  obtain ⟨hkept, hself⟩ := classify_of_mem_fieldLinks haddress hurl
  have howner : (LinkRecord.ofOccurrence url c.owner field language).owner = c.view.owner := rfl
  rw [removes_of_owner_eq howner hlive]
  refine isStale_eq_false_iff.2 ⟨hkept, ?_⟩
  change (s.classifier.classify url (s.baseOf c)).url ∈ s.fieldLinks c field language
  rw [hself]
  exact hurl

/-- What is missing does not depend on the records that are to be removed. -/
theorem missing_restrict
    (hlive : c.isLive = true)
    (haddress : PlainAddresses s c) :
    missing (x.restrict fun r => !s.removes c r).records (s.contentRecords c) =
      missing x.records (s.contentRecords c) := by
  refine missing_congr fun r hr => ?_
  rw [Index.records_restrict, Bool.eq_iff_iff, List.any_eq_true, List.any_eq_true]
  constructor
  · rintro ⟨d, hd, hsame⟩
    exact ⟨d, (List.mem_filter.1 hd).1, hsame⟩
  · rintro ⟨d, hd, hsame⟩
    have hstay : s.removes c d = false := by
      rw [removes_congr hsame]
      exact removes_contentRecords hlive haddress hr
    exact ⟨d, List.mem_filter.2 ⟨hd, by rw [hstay, Bool.not_false]⟩, hsame⟩

/-- What is missing is not removed once it is there. -/
theorem removes_of_mem_stored
    (hlive : c.isLive = true)
    (haddress : PlainAddresses s c)
    {known : List LinkRecord}
    {last : Nat}
    {r : LinkRecord}
    (h : r ∈ Index.stored last (missing known (s.contentRecords c))) :
    s.removes c r = false := by
  obtain ⟨q, hq, id, rfl⟩ := Index.exists_of_mem_stored h
  rw [removes_withId]
  exact removes_contentRecords hlive haddress (mem_of_mem_missing hq)

/-! ## Settled indexes -/

/-- An index without records to remove that has all records of content. -/
structure Settled (s : Service) (c : Content) (x : Index) : Prop where
  wellFormed : x.WellFormed
  clean : ∀ r ∈ x.records, s.removes c r = false
  complete : ∀ r ∈ s.contentRecords c, x.records.any (·.sameOccurrence r) = true

/-- Nothing is left to do about the records of a settled index. -/
theorem Settled.upkeep
    (h : Settled s c x)
    (action : Upkeep) :
    s.upkeep Index.access c action x = (.ok (0, []), x) := by
  cases action with
  | cleanUp =>
      rw [Service.upkeep, Step.bind_of_ok (cleanUp_access_of_clean h.wellFormed h.clean)]
      rfl
  | save =>
      have hsave : s.saveContent Index.access c x = (.ok [], x) := by
        rw [saveContent, save_access, missing_eq_nil h.complete]
        rfl
      rw [Service.upkeep, Step.bind_of_ok hsave]
      rfl

/-- A settled index stays as it is, whatever is done and however often. -/
theorem Settled.mapM_upkeep
    (h : Settled s c x)
    (actions : List Upkeep) :
    actions.mapM (s.upkeep Index.access c) x = (.ok (actions.map fun _ => (0, [])), x) := by
  induction actions with
  | nil => rfl
  | cons action actions ih => exact Step.mapM_cons_of_ok (h.upkeep action) ih

/-- The links that a settled index has of content are the links of the content. -/
theorem Settled.links_iff
    (h : Settled s c x)
    (hlive : c.isLive = true)
    (haddress : PlainAddresses s c)
    (field language url : String) :
    (∃ r ∈ x.records, r.owner = c.owner ∧ r.field = field ∧ r.language = language ∧
        (s.classifier.classify r.url (s.baseOf c)).url = url) ↔
      ∃ r ∈ s.contentRecords c, r.field = field ∧ r.language = language ∧ r.url = url := by
  constructor
  · rintro ⟨r, hr, howner, rfl, rfl, rfl⟩
    have hstay := h.clean r hr
    rw [removes_of_owner_eq howner hlive] at hstay
    obtain ⟨-, hurl⟩ := isStale_eq_false_iff.1 hstay
    exact ⟨_, mem_contentRecords.2 ⟨_, _, _, hurl, rfl⟩, rfl, rfl, rfl⟩
  · rintro ⟨r, hr, rfl, rfl, rfl⟩
    obtain ⟨d, hd, hsame⟩ := List.any_eq_true.1 (h.complete r hr)
    obtain ⟨durl, downer, dfield, dlanguage⟩ := (LinkRecord.sameOccurrence_iff d r).1 hsame
    obtain ⟨field, language, url, hurl, rfl⟩ := mem_contentRecords.1 hr
    refine ⟨d, hd, downer, dfield, dlanguage, ?_⟩
    rw [durl]
    exact (classify_of_mem_fieldLinks haddress hurl).2

/-! ## The two together -/

/-- The index without stale records and with those that were missing. -/
def reconciled (s : Service) (c : Content) (x : Index) : Index :=
  (x.restrict fun r => !s.removes c r).createAll (missing x.records (s.contentRecords c))

theorem settled_reconciled
    (hx : x.WellFormed)
    (hlive : c.isLive = true)
    (haddress : PlainAddresses s c) :
    Settled s c (s.reconciled c x) := by
  refine ⟨(hx.restrict _).createAll _, ?_, ?_⟩
  · intro r hr
    rw [reconciled, Index.records_createAll, Index.records_restrict, List.mem_append] at hr
    rcases hr with hr | hr
    · simpa using (List.mem_filter.1 hr).2
    · exact removes_of_mem_stored hlive haddress hr
  · intro r hr
    have hcover : ∃ d, (d ∈ (x.restrict fun r => !s.removes c r).records ∨
        d ∈ missing (x.restrict fun r => !s.removes c r).records (s.contentRecords c)) ∧
          d.sameOccurrence r = true := exists_of_mem hr
    obtain ⟨d, hd, hsame⟩ := hcover
    rw [missing_restrict hlive haddress] at hd
    rw [reconciled, Index.records_createAll, List.any_append, Bool.or_eq_true, List.any_eq_true,
      List.any_eq_true]
    rcases hd with hd | hd
    · exact Or.inl ⟨d, hd, hsame⟩
    · obtain ⟨id, hid⟩ := Index.mem_stored (x.restrict fun r => !s.removes c r).last hd
      exact Or.inr ⟨_, hid, by rw [LinkRecord.sameOccurrence_withId]; exact hsame⟩

/-- Removing first and saving behind it. -/
theorem cleanUp_save_access
    (hx : x.WellFormed)
    (hlive : c.isLive = true)
    (haddress : PlainAddresses s c) :
    [Upkeep.cleanUp, Upkeep.save].mapM (s.upkeep Index.access c) x =
      (.ok [((x.records.filter (s.removes c)).length, []),
          (0, Index.stored x.last (missing x.records (s.contentRecords c)))],
        s.reconciled c x) := by
  have hclean : s.upkeep Index.access c .cleanUp x =
      (.ok ((x.records.filter (s.removes c)).length, []),
        x.restrict fun r => !s.removes c r) := by
    rw [upkeep, Step.bind_of_ok (cleanUp_access hx s c)]
    rfl
  have hstep : s.saveContent Index.access c (x.restrict fun r => !s.removes c r) =
      (.ok (Index.stored x.last (missing x.records (s.contentRecords c))),
        s.reconciled c x) := by
    rw [saveContent, save_access, missing_restrict hlive haddress]
    rfl
  refine Step.mapM_cons_of_ok hclean (Step.mapM_cons_of_ok ?_ rfl)
  rw [upkeep, Step.bind_of_ok hstep]
  rfl

/-- Saving first and removing behind it. -/
theorem save_cleanUp_access
    (hx : x.WellFormed)
    (hlive : c.isLive = true)
    (haddress : PlainAddresses s c) :
    [Upkeep.save, Upkeep.cleanUp].mapM (s.upkeep Index.access c) x =
      (.ok [(0, Index.stored x.last (missing x.records (s.contentRecords c))),
          ((x.records.filter (s.removes c)).length, [])],
        s.reconciled c x) := by
  have hstep : s.saveContent Index.access c x =
      (.ok (Index.stored x.last (missing x.records (s.contentRecords c))),
        x.createAll (missing x.records (s.contentRecords c))) :=
    save_access x _
  have hsave : s.upkeep Index.access c .save x =
      (.ok (0, Index.stored x.last (missing x.records (s.contentRecords c))),
        x.createAll (missing x.records (s.contentRecords c))) := by
    rw [upkeep, Step.bind_of_ok hstep]
    rfl
  -- The pass behind the saving finds the records it would have found before, and none of the new.
  have hgone : (x.createAll (missing x.records (s.contentRecords c))).records.filter
      (s.removes c) = x.records.filter (s.removes c) := by
    have hnew : (Index.stored x.last (missing x.records (s.contentRecords c))).filter
        (s.removes c) = [] := by
      refine List.filter_eq_nil_iff.2 fun r hr => ?_
      rw [removes_of_mem_stored hlive haddress hr]
      exact Bool.false_ne_true
    rw [Index.records_createAll, List.filter_append, hnew, List.append_nil]
  have hrest : ((x.createAll (missing x.records (s.contentRecords c))).restrict
      fun r => !s.removes c r) = s.reconciled c x := by
    refine Index.restrict_createAll x fun r hr id => ?_
    rw [removes_withId, removes_contentRecords hlive haddress (mem_of_mem_missing hr)]
    rfl
  refine Step.mapM_cons_of_ok hsave (Step.mapM_cons_of_ok ?_ rfl)
  rw [upkeep, Step.bind_of_ok (cleanUp_access (hx.createAll _) s c), hgone, hrest]
  rfl

/-- The records of other owners stay as they are. -/
theorem filter_reconciled
    (s : Service)
    (c : Content)
    (x : Index) :
    (s.reconciled c x).records.filter (fun r => r.owner != c.owner) =
      x.records.filter fun r => r.owner != c.owner := by
  have hnew : (Index.stored (x.restrict fun r => !s.removes c r).last
      (missing x.records (s.contentRecords c))).filter (fun r => r.owner != c.owner) = [] := by
    refine List.filter_eq_nil_iff.2 fun r hr => ?_
    obtain ⟨q, hq, id, rfl⟩ := Index.exists_of_mem_stored hr
    obtain ⟨field, language, url, -, rfl⟩ := mem_contentRecords.1 (mem_of_mem_missing hq)
    simp [LinkRecord.ofOccurrence]
  rw [reconciled, Index.records_createAll, Index.records_restrict, List.filter_append, hnew,
    List.append_nil, List.filter_filter]
  refine List.filter_congr fun r _ => ?_
  cases howner : r.owner != c.owner with
  | false => rfl
  | true =>
      rw [removes_of_owner_ne (c := c.view) (bne_iff_ne.1 howner)]
      rfl

/--
Removing the stale records of content and saving its links lead, in either order, to the same index,
and they remove and create the same records.  The index then has the links of the content and no
others of its owner, the records of other owners are as they were, and neither operation finds
anything left to do, however often and in whatever order both are repeated.
-/
theorem upkeep_reconciles
    (hx : x.WellFormed)
    (hlive : c.isLive = true)
    (haddress : PlainAddresses s c) :
    ∃ removed created y,
      [Upkeep.cleanUp, Upkeep.save].mapM (s.upkeep Index.access c) x =
          (.ok [(removed, []), (0, created)], y) ∧
        [Upkeep.save, Upkeep.cleanUp].mapM (s.upkeep Index.access c) x =
          (.ok [(0, created), (removed, [])], y) ∧
        (∀ field language url,
          (∃ r ∈ y.records, r.owner = c.owner ∧ r.field = field ∧ r.language = language ∧
              (s.classifier.classify r.url (s.baseOf c)).url = url) ↔
            ∃ r ∈ s.contentRecords c, r.field = field ∧ r.language = language ∧ r.url = url) ∧
        y.records.filter (fun r => r.owner != c.owner) =
          x.records.filter (fun r => r.owner != c.owner) ∧
        ∀ actions : List Upkeep,
          actions.mapM (s.upkeep Index.access c) y =
            (.ok (actions.map fun _ => (0, [])), y) := by
  have hsettled := settled_reconciled hx hlive haddress
  refine ⟨_, _, _, cleanUp_save_access hx hlive haddress, save_cleanUp_access hx hlive haddress,
    ?_, filter_reconciled s c x, ?_⟩
  · exact hsettled.links_iff hlive haddress
  · exact hsettled.mapM_upkeep

end Reconciliation

/-- A relative link of a field and a stale record of its owner. -/
theorem upkeep_reconciles_stale_record :
    ∃ removed created y,
      [Upkeep.cleanUp, Upkeep.save].mapM
          (upkeep ⟨.standard, .standard⟩ Index.access
            (((Content.ofOwner ⟨"node", "1"⟩).withConfig "see" (.scanned "link_link_extractor")
              ).withField "see" "en" ["about"]).view)
          (Index.empty.create (.ofOccurrence "http://localhost/gone" ⟨"node", "1"⟩ "see" "en")).2 =
        (.ok [(removed, []), (0, created)], y) := by
  have hall := upkeep_reconciles
    (s := ⟨.standard, .standard⟩)
    (c := ((Content.ofOwner ⟨"node", "1"⟩).withConfig "see"
      (.scanned "link_link_extractor")).withField "see" "en" ["about"])
    (Index.wellFormed_empty.create
      (.ofOccurrence "http://localhost/gone" ⟨"node", "1"⟩ "see" "en")) rfl
    ⟨Or.inl (by decide), by decide, fun _ h => by cases h⟩
  obtain ⟨removed, created, y, hboth, -⟩ := hall
  exact ⟨removed, created, y, hboth⟩

end Service
end LinkLedger
