import LinkLedger.Proofs.Index.Journal
import LinkLedger.Proofs.Index.WellFormed
import Mathlib.Data.List.Perm.Basic

/-!
# What a check writes back

The results of a check come in any order, and each is written to all records that carry its link.
Whatever the order, every record is written back once, so the index is the same in the end.

**Results.**
* `Index.overwrite`: the index with some records in place of those with their numbers;
  `overwrite_perm`: their order does not matter.
* `writeBack_observed`: writing records back does that, and updates each of them once.
* `flatMap_marked_perm`, `writeBack_marked`: the results for the links of records, in any order,
  mark each record once.
* `checkLinks_fetches`, `checkLinks_observed`: what a check of records fetches, and what it does to
  an index.
-/

namespace LinkLedger

/-! ## Records by their numbers -/

/-- A number stands for one of the records if no number occurs twice. -/
theorem find?_id_eq_some_iff
    {rs : List LinkRecord}
    (h : (rs.filterMap (·.id)).Nodup)
    {id : Nat}
    {r : LinkRecord} :
    rs.find? (fun q => q.id == some id) = some r ↔ r ∈ rs ∧ r.id = some id := by
  induction rs with
  | nil => simp
  | cons q rs ih =>
      have hrest : (rs.filterMap (·.id)).Nodup :=
        h.sublist ((List.sublist_cons_self q rs).filterMap _)
      by_cases hq : q.id = some id
      · have hnew : ∀ p ∈ rs, p.id ≠ some id := by
          intro p hp hid
          rw [List.filterMap_cons_some hq, List.nodup_cons] at h
          exact h.1 (List.mem_filterMap.2 ⟨p, hp, hid⟩)
        rw [List.find?_cons_of_pos (by simp [hq]), List.mem_cons]
        constructor
        · intro heq
          cases heq
          exact ⟨Or.inl rfl, hq⟩
        · rintro ⟨rfl | hr, hid⟩
          · rfl
          · exact absurd hid (hnew r hr)
      · rw [List.find?_cons_of_neg (by simpa using hq), ih hrest, List.mem_cons]
        constructor
        · rintro ⟨hr, hid⟩
          exact ⟨Or.inr hr, hid⟩
        · rintro ⟨rfl | hr, hid⟩
          · exact absurd hid hq
          · exact ⟨hr, hid⟩

namespace Index

/-- The index with some records in place of those with their numbers. -/
def overwrite (x : Index) (rs : List LinkRecord) : Index :=
  { x with
    entries := x.entries.map fun e => (e.1, (rs.find? fun r => r.id == some e.1).getD e.2) }

@[simp] theorem overwrite_nil
    (x : Index) :
    x.overwrite [] = x := by
  simp [overwrite]

theorem keys_overwrite
    (x : Index)
    (rs : List LinkRecord) :
    (x.overwrite rs).entries.map (·.1) = x.entries.map (·.1) := by
  simp [overwrite, Function.comp_def]

theorem overwrite_perm
    (x : Index)
    {rs rs' : List LinkRecord}
    (hperm : rs.Perm rs')
    (h : (rs.filterMap (·.id)).Nodup) :
    x.overwrite rs = x.overwrite rs' := by
  have h' : (rs'.filterMap (·.id)).Nodup := (hperm.filterMap _).nodup_iff.1 h
  have hfind : ∀ id, rs.find? (fun r => r.id == some id) =
      rs'.find? fun r => r.id == some id := by
    intro id
    refine Option.ext fun r => ?_
    rw [find?_id_eq_some_iff h, find?_id_eq_some_iff h', hperm.mem_iff]
  simp only [overwrite, hfind]

theorem overwrite_overwrite
    (x : Index)
    {r : LinkRecord}
    {rs : List LinkRecord}
    (h : ∀ id, r.id = some id → ∀ q ∈ rs, q.id ≠ some id) :
    (x.overwrite [r]).overwrite rs = x.overwrite (r :: rs) := by
  simp only [overwrite, List.map_map]
  congr 1
  refine List.map_congr_left fun e _ => ?_
  by_cases hr : r.id = some e.1
  · have hnone : rs.find? (fun q => q.id == some e.1) = none :=
      List.find?_eq_none.2 fun q hq => by simpa using h e.1 hr q hq
    simp [hr, hnone]
  · simp [hr]

theorem update_eq_ok
    {x : Index}
    {r : LinkRecord}
    {id : Nat}
    (hid : r.id = some id)
    (hmem : id ∈ x.entries.map (·.1)) :
    x.update r = .ok (x.overwrite [r]) := by
  have hstored : (x.get? id).isSome = true := by
    obtain ⟨e, he, heq⟩ := List.mem_map.1 hmem
    rw [get?, List.lookup_isSome_iff]
    exact ⟨e, he, by simp [heq]⟩
  have hentry : ∀ e : Nat × LinkRecord, (if e.1 = id then (id, r) else e) =
      (e.1, ([r].find? fun q => q.id == some e.1).getD e.2) := by
    intro e
    by_cases he : e.1 = id
    · simp [he, hid]
    · simp [he, hid, Ne.symm he]
  simp only [update, hid, hstored, if_true, overwrite, hentry]

end Index

namespace Check

variable {τ : Type}

/-! ## Writing back -/

/-- Writing records back puts them in place of those with their numbers, each once. -/
theorem writeBack_observed
    {rs : List LinkRecord}
    (hdistinct : (rs.filterMap (·.id)).Nodup)
    (o : Observed Index τ)
    (hstored : ∀ id ∈ rs.filterMap (·.id), id ∈ o.store.entries.map (·.1)) :
    writeBack (Index.access.observed τ) rs o =
      (.ok (), { o with
        store := o.store.overwrite rs
        deeds := o.deeds ++ (rs.filter (·.id.isSome)).map .updated }) := by
  induction rs generalizing o with
  | nil => simp [writeBack]
  | cons r rs ih =>
      cases hid : r.id with
      | none =>
          rw [List.filterMap_cons_none hid] at hdistinct hstored
          have hskip : o.store.overwrite (r :: rs) = o.store.overwrite rs := by
            rw [← Index.overwrite_overwrite o.store (by simp [hid])]
            simp [Index.overwrite, hid]
          rw [writeBack, hid, hskip, List.filter_cons_of_neg (by simp [hid])]
          exact ih hdistinct o hstored
      | some id =>
          rw [List.filterMap_cons_some hid, List.nodup_cons] at hdistinct
          rw [List.filterMap_cons_some hid] at hstored
          have hnew : ∀ i, r.id = some i → ∀ q ∈ rs, q.id ≠ some i := by
            intro i hi q hq hqid
            cases hid.symm.trans hi
            exact hdistinct.1 (List.mem_filterMap.2 ⟨q, hq, hqid⟩)
          have hupdate : ((Index.access.observed τ).update r).mapFailure Failure.storage o =
              (.ok (), { o with
                store := o.store.overwrite [r], deeds := o.deeds ++ [.updated r] }) := by
            refine Step.mapFailure_of_ok (Observed.written_of_ok ?_)
            have hmem := Index.update_eq_ok hid (hstored id List.mem_cons_self)
            simp only [Index.access, Index.updateStep, hmem]
          have hrest := ih hdistinct.2
            { o with store := o.store.overwrite [r], deeds := o.deeds ++ [.updated r] }
            fun i hi => by
              rw [Index.keys_overwrite]
              exact hstored i (List.mem_cons_of_mem _ hi)
          rw [writeBack, if_pos (by simp [hid]), Step.bind_of_ok hupdate]
          refine hrest.trans ?_
          rw [Index.overwrite_overwrite _ hnew, List.filter_cons_of_pos (by simp [hid])]
          simp

/-- The records written back are those that have a number. -/
theorem updates_written
    (rs : List LinkRecord) :
    Deed.updates ((rs.filter (·.id.isSome)).map .updated) = rs.filterMap (·.id) := by
  rw [Deed.updates, List.filterMap_map, List.filterMap_filter]
  refine List.filterMap_congr fun r _ => ?_
  cases hid : r.id <;> simp [hid]

/-! ## Results for links -/

/-- A record behind a check at the time `now`, by what is found of its link. -/
def checked (answer : String → CheckResult) (now : Timestamp) (r : LinkRecord) : LinkRecord :=
  mark now (answer (fetchable r.url)) r

@[simp] theorem id_checked
    (answer : String → CheckResult)
    (now : Timestamp)
    (r : LinkRecord) :
    (checked answer now r).id = r.id :=
  rfl

/-- Every record carries one of the links, so it is among the records of one link. -/
theorem flatMap_filter_perm
    {urls : List String}
    (hurls : urls.Nodup)
    {rs : List LinkRecord}
    (hall : ∀ r ∈ rs, r.url ∈ urls) :
    (urls.flatMap fun url => rs.filter fun r => r.url == url).Perm rs := by
  induction urls generalizing rs with
  | nil =>
      have hnone : rs = [] := List.eq_nil_iff_forall_not_mem.2 fun r hr => by simpa using hall r hr
      rw [hnone]
      exact List.Perm.refl _
  | cons url urls ih =>
      rw [List.nodup_cons] at hurls
      have hsame : (urls.flatMap fun u => rs.filter fun r => r.url == u) =
          urls.flatMap fun u =>
            (rs.filter fun r => !(r.url == url)).filter fun r => r.url == u := by
        refine List.flatMap_congr fun u hu => ?_
        rw [List.filter_filter]
        refine List.filter_congr fun r _ => ?_
        by_cases hr : r.url = u
        · have hne : r.url ≠ url := fun heq => hurls.1 (heq ▸ hr ▸ hu)
          simp [hr, hr ▸ hne]
        · simp [hr]
      have hothers : ∀ r ∈ rs.filter fun r => !(r.url == url), r.url ∈ urls := by
        intro r hr
        obtain ⟨hmem, hne⟩ := List.mem_filter.1 hr
        rcases List.mem_cons.1 (hall r hmem) with heq | hin
        · simp [heq] at hne
        · exact hin
      have hrest := ih hurls.2 hothers
      rw [List.flatMap_cons, hsame]
      exact (hrest.append_left _).trans (List.filter_append_perm (fun r => r.url == url) rs)

/-- Results for different links say one thing of each link. -/
theorem exists_resultOf
    {results : List CheckResult}
    (h : (results.map (·.url)).Nodup) :
    ∃ res : String → CheckResult,
      (∀ url, (res url).url = url) ∧ results = (results.map (·.url)).map res := by
  induction results with
  | nil => exact ⟨fun url => ⟨url, .ok, none, none⟩, fun _ => rfl, rfl⟩
  | cons result results ih =>
      rw [List.map_cons, List.nodup_cons] at h
      obtain ⟨res, hres, heq⟩ := ih h.2
      refine ⟨fun url => if url = result.url then result else res url, fun url => ?_, ?_⟩
      · beta_reduce
        split
        · next hurl => exact hurl.symm
        · exact hres url
      · have hothers : (results.map (·.url)).map
            (fun url => if url = result.url then result else res url) =
              (results.map (·.url)).map res := by
          refine List.map_congr_left fun url hurl => if_neg ?_
          rintro rfl
          exact h.1 hurl
        rw [List.map_cons, List.map_cons, if_pos rfl, hothers, ← heq]

/-- The results for the links of records, in any order, mark each record once. -/
theorem flatMap_marked_perm
    {res : String → CheckResult}
    (hres : ∀ url, (res url).url = url)
    (now : Timestamp)
    {urls : List String}
    {rs : List LinkRecord}
    (hurls : urls.Perm (unique (rs.map (·.url)))) :
    ((urls.map res).flatMap (marked now rs)).Perm (rs.map fun r => mark now (res r.url) r) := by
  have hmarked : ∀ url, marked now rs (res url) =
      (rs.filter fun r => r.url == url).map fun r => mark now (res r.url) r := by
    intro url
    rw [marked, hres]
    refine List.map_congr_left fun r hr => ?_
    rw [beq_iff_eq.1 (List.mem_filter.1 hr).2]
  have hgroups : (urls.map res).flatMap (marked now rs) =
      (urls.flatMap fun url => rs.filter fun r => r.url == url).map
        fun r => mark now (res r.url) r := by
    rw [List.flatMap_map, List.map_flatMap]
    exact List.flatMap_congr fun url _ => hmarked url
  rw [hgroups]
  refine (flatMap_filter_perm (hurls.nodup_iff.2 (nodup_unique _)) fun r hr => ?_).map _
  rw [hurls.mem_iff, mem_unique]
  exact List.mem_map_of_mem hr

end Check

/-- The results of a check are those for the links, in some order. -/
def Course.Fair {σ : Type} (course : Course σ) : Prop :=
  ∀ s urls, (course.order s urls).Perm urls

namespace Check

variable {τ : Type}

/-- Results for the links of records, in any order, put the marked records in place of those stored,
and each is updated once. -/
theorem writeBack_marked
    {res : String → CheckResult}
    (hres : ∀ url, (res url).url = url)
    (now : Timestamp)
    {urls : List String}
    {rs : List LinkRecord}
    (hurls : urls.Perm (unique (rs.map (·.url))))
    (hdistinct : (rs.filterMap (·.id)).Nodup)
    (o : Observed Index τ)
    (hstored : ∀ id ∈ rs.filterMap (·.id), id ∈ o.store.entries.map (·.1)) :
    ∃ deeds : List Deed,
      (Deed.updates deeds).Perm (rs.filterMap (·.id)) ∧
      writeBack (Index.access.observed τ) ((urls.map res).flatMap (marked now rs)) o =
        (.ok (), { o with
          store := o.store.overwrite (rs.map fun r => mark now (res r.url) r)
          deeds := o.deeds ++ deeds }) := by
  have hmarked := flatMap_marked_perm hres now hurls
  have hids : (((urls.map res).flatMap (marked now rs)).filterMap (·.id)).Perm
      (rs.filterMap (·.id)) := by
    have hmap := hmarked.filterMap (·.id)
    rwa [List.filterMap_map] at hmap
  have hnodup := hids.nodup_iff.2 hdistinct
  have hwrite := writeBack_observed hnodup o fun id hid => hstored id (hids.mem_iff.1 hid)
  -- The order of the results is the order of the writes, which does not matter.
  rw [Index.overwrite_perm _ hmarked hnodup] at hwrite
  exact ⟨_, (List.Perm.of_eq (updates_written _)).trans hids, hwrite⟩

/--
A check of records with distinct numbers fetches each of their links once, in the order in which the
results come.  It puts the records, marked by what was fetched of their links, in place of those
stored, and updates each once.
-/
theorem checkLinks_fetches
    (fetch : Fetcher τ)
    (timeout : Nat)
    {course : Course (Observed Index τ)}
    (hfair : course.Fair)
    {rs : List LinkRecord}
    (hdistinct : (rs.filterMap (·.id)).Nodup)
    (o : Observed Index τ)
    (hstored : ∀ id ∈ rs.filterMap (·.id), id ∈ o.store.entries.map (·.1)) :
    ∃ (urls : List String) (res : String → CheckResult) (now : Timestamp) (deeds : List Deed),
      urls.Perm (unique (rs.map (·.url))) ∧
      (fetchAll fetch timeout urls o.web).1 = urls.map res ∧
      (Deed.updates deeds).Perm (rs.filterMap (·.id)) ∧
      checkLinks (Index.access.observed τ) (fetch.observed Index) course timeout rs o =
        (.ok (fetchAll fetch timeout urls o.web).1,
          ⟨o.store.overwrite (rs.map fun r => mark now (res r.url) r), o.deeds ++ deeds,
            (fetchAll fetch timeout urls o.web).2⟩) := by
  have hurls := hfair o (unique (rs.map (·.url)))
  generalize horder : course.order o (unique (rs.map (·.url))) = urls at hurls
  rcases hgot : fetchAll fetch timeout urls o.web with ⟨results, web⟩
  have hfetch : (ExceptT.lift (fetchAll (fetch.observed Index) timeout urls) : Step Failure _ _) o =
      (.ok results, { o with web := web }) := by
    have hbeside := fetchAll_beside fetch timeout urls o
    rw [hgot] at hbeside
    exact congrArg (fun p : List CheckResult × Observed Index τ => (Except.ok p.1, p.2)) hbeside
  have hnames : results.map (·.url) = urls := by
    have hall := url_fetchAll fetch timeout urls o.web
    rwa [hgot] at hall
  have honce : (results.map (·.url)).Nodup := hnames ▸ hurls.nodup_iff.2 (nodup_unique _)
  obtain ⟨res, hres, hresults⟩ := exists_resultOf honce
  rw [hnames] at hresults
  let now := course.time { o with web := web }
  obtain ⟨deeds, hupdates, hwrite⟩ :=
    writeBack_marked hres now hurls hdistinct { o with web := web } hstored
  rw [← hresults] at hwrite
  refine ⟨urls, res, now, deeds, hurls, by rw [hgot, hresults], hupdates, ?_⟩
  rw [hgot, checkLinks, Step.bind_of_ok (Step.ofView_apply _ _), horder, Step.bind_of_ok hfetch,
    Step.bind_of_ok (Step.ofView_apply _ _), Step.bind_of_ok hwrite]
  rfl

/--
If the same is found of a link whenever it is fetched, a check of records with distinct numbers puts
the checked records in place of those stored, in whatever order the results come.
-/
theorem checkLinks_observed
    {fetch : Fetcher τ}
    {timeout : Nat}
    {answer : String → CheckResult}
    (hsteady : ∀ url web, (fetch url timeout web).1 = answer url)
    {course : Course (Observed Index τ)}
    (hfair : course.Fair)
    {rs : List LinkRecord}
    (hdistinct : (rs.filterMap (·.id)).Nodup)
    (o : Observed Index τ)
    (hstored : ∀ id ∈ rs.filterMap (·.id), id ∈ o.store.entries.map (·.1)) :
    ∃ (urls : List String) (now : Timestamp) (deeds : List Deed),
      urls.Perm (unique (rs.map (·.url))) ∧
      (Deed.updates deeds).Perm (rs.filterMap (·.id)) ∧
      checkLinks (Index.access.observed τ) (fetch.observed Index) course timeout rs o =
        (.ok (urls.map (found answer)),
          ⟨o.store.overwrite (rs.map (checked answer now)), o.deeds ++ deeds,
            (fetchAll fetch timeout urls o.web).2⟩) := by
  obtain ⟨urls, res, now, deeds, hurls, hgot, hupdates, hcheck⟩ :=
    checkLinks_fetches fetch timeout hfair hdistinct o hstored
  rw [fetchAll_steady hsteady] at hgot hcheck
  have hrecords : rs.map (fun r => mark now (res r.url) r) = rs.map (checked answer now) := by
    refine List.map_congr_left fun r hr => ?_
    have hmem : r.url ∈ urls := by
      rw [hurls.mem_iff, mem_unique]
      exact List.mem_map_of_mem hr
    rw [← List.map_inj_left.1 hgot r.url hmem]
    rfl
  rw [hrecords] at hcheck
  exact ⟨urls, now, deeds, hurls, hupdates, hcheck⟩

end Check
end LinkLedger
