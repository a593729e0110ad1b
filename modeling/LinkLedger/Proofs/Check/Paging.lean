import LinkLedger.Proofs.Check.WriteBack
import LinkLedger.Proofs.Index.Cursor
import Mathlib.Data.List.Forall2

/-!
# Checking page by page

A check of all records goes through the index by a cursor, and it writes every page back before it
takes the next one.  Records keep their numbers, so the cursor parts the index into records that
have been checked and records that have not been touched.

**Results.**
* `WellFormed.page_of_split`, `WellFormed.overwrite_of_split`: a page behind the cursor, and the
  index when it has been written back.
* `pagesOf`: a list in pages.
* `checkPages_fetches`, `checkPages_observed`: from a cursor on, a check fetches the links behind it
  page by page and marks the records there, each once, in any number of rounds that is large enough.
* `checkAll_observed`: checking page by page does what checking everything at once does.
-/

namespace LinkLedger

/-! ## Indexes in two parts -/

namespace Index

variable {x : Index}

theorem WellFormed.overwrite
    (hx : x.WellFormed)
    (rs : List LinkRecord) :
    (x.overwrite rs).WellFormed := by
  refine ⟨?_, ?_, ?_⟩
  · rw [Index.overwrite, List.pairwise_map]
    exact hx.ascending
  · intro e he
    obtain ⟨d, hd, rfl⟩ := List.mem_map.1 he
    cases hfind : rs.find? fun r => r.id == some d.1 with
    | none => simpa [hfind] using hx.numbered d hd
    | some r => simpa [hfind] using List.find?_some hfind
  · intro e he
    obtain ⟨d, hd, rfl⟩ := List.mem_map.1 he
    exact hx.bounded d hd

variable {front page back : List (Nat × LinkRecord)}

/-- Behind the last entry of a front part stands the back part. -/
theorem WellFormed.page_of_split
    (hx : x.WellFormed)
    (hsplit : x.entries = front ++ back)
    (limit : Nat) :
    x.page (front.getLast?.map (·.1)) limit = (back.take limit).map (·.2) :=
  (hx.cut_of_split hsplit).page limit

/-- Writing back a page touches nothing in front of it or behind it. -/
theorem WellFormed.overwrite_of_split
    (hx : x.WellFormed)
    (hsplit : x.entries = front ++ page ++ back)
    {f : LinkRecord → LinkRecord}
    (hf : ∀ r, (f r).id = r.id) :
    (x.overwrite (page.map fun e => f e.2)).entries =
      front ++ page.map (fun e => (e.1, f e.2)) ++ back := by
  have hpage : ∀ e ∈ page, e ∈ x.entries := by
    intro e he
    simp [hsplit, he]
  have hids : (page.map fun e => f e.2).filterMap (·.id) = page.map (·.1) := by
    rw [← hx.ids_of_subset hpage, List.filterMap_map, List.filterMap_map]
    exact List.filterMap_congr fun e _ => hf e.2
  have hkeys := hx.nodup_keys
  rw [hsplit, List.map_append, List.map_append, List.nodup_append, List.nodup_append] at hkeys
  obtain ⟨⟨-, hnodup, hfront⟩, -, hback⟩ := hkeys
  -- An entry is found among the records of the page exactly if it is in the page.
  have hin : ∀ e ∈ page, (page.map fun e => f e.2).find? (fun r => r.id == some e.1) =
      some (f e.2) := by
    intro e he
    rw [find?_id_eq_some_iff (hids ▸ hnodup), hf]
    exact ⟨List.mem_map_of_mem (f := fun e => f e.2) he, hx.numbered e (hpage e he)⟩
  have hout : ∀ es : List (Nat × LinkRecord), (∀ e ∈ es, e.1 ∉ page.map (·.1)) →
      es.map (fun e => (e.1, ((page.map fun e => f e.2).find? fun r =>
        r.id == some e.1).getD e.2)) = es := by
    intro es hes
    refine (List.map_congr_left fun e he => ?_).trans (List.map_id es)
    have hnone : (page.map fun e => f e.2).find? (fun r => r.id == some e.1) = none := by
      rw [List.find?_eq_none]
      intro r hr hid
      refine hes e he (hids ▸ List.mem_filterMap.2 ⟨r, hr, ?_⟩)
      simpa using hid
    rw [hnone, Option.getD_none, id]
  have hfront' := hout front fun e he hmem => hfront _ (List.mem_map_of_mem he) _ hmem rfl
  have hback' := hout back fun e he hmem =>
    hback _ (List.mem_append_right _ hmem) _ (List.mem_map_of_mem he) rfl
  simp only [Index.overwrite, hsplit, List.map_append]
  rw [hfront', hback']
  congr 2
  exact List.map_congr_left fun e he => by rw [hin e he, Option.getD_some]

end Index

/-! ## What a check does to records -/

/-- A record behind a check: what is found of its link, and otherwise what it was. -/
structure LinkRecord.CheckedBy (answer : String → CheckResult) (r r' : LinkRecord) : Prop where
  status : r'.status = some (answer (Check.fetchable r.url)).status
  failCount : r'.failCount = if (answer (Check.fetchable r.url)).isOk then 0 else r.failCount + 1
  timed : r'.lastChecked.isSome = true
  id : r'.id = r.id
  url : r'.url = r.url
  owner : r'.owner = r.owner
  field : r'.field = r.field
  language : r'.language = r.language

/-- Records that differ at most in the time of their last check. -/
def LinkRecord.SameButTime (r r' : LinkRecord) : Prop :=
  r.lastChecked.isSome = r'.lastChecked.isSome ∧ { r with lastChecked := r'.lastChecked } = r'

/-- Records checked by the same answers differ at most in the time. -/
theorem LinkRecord.CheckedBy.sameButTime
    {answer : String → CheckResult}
    {r r₁ r₂ : LinkRecord}
    (h₁ : r.CheckedBy answer r₁)
    (h₂ : r.CheckedBy answer r₂) :
    r₁.SameButTime r₂ := by
  refine ⟨h₁.timed.trans h₂.timed.symm, ?_⟩
  cases r₁
  cases r₂
  simp only [LinkRecord.mk.injEq, and_true]
  exact ⟨h₁.id.trans h₂.id.symm, h₁.url.trans h₂.url.symm, h₁.owner.trans h₂.owner.symm,
    h₁.field.trans h₂.field.symm, h₁.language.trans h₂.language.symm,
    h₁.status.trans h₂.status.symm, h₁.failCount.trans h₂.failCount.symm⟩

theorem Check.checkedBy_checked
    (answer : String → CheckResult)
    (now : Timestamp)
    (r : LinkRecord) :
    r.CheckedBy answer (checked answer now r) := by
  constructor <;> rfl

/-- A record marked at some time by what was fetched of its link. -/
def Check.MarkedBy {τ : Type} (fetch : Fetcher τ) (timeout : Nat) (r r' : LinkRecord) : Prop :=
  ∃ web now, r' = mark now (fetchOne fetch timeout r.url web).1 r

/-- Where the same is found of a link whenever it is fetched, marked records are checked. -/
theorem Check.MarkedBy.checkedBy
    {τ : Type}
    {fetch : Fetcher τ}
    {timeout : Nat}
    {answer : String → CheckResult}
    (hsteady : ∀ url web, (fetch url timeout web).1 = answer url)
    {r r' : LinkRecord}
    (h : MarkedBy fetch timeout r r') :
    r.CheckedBy answer r' := by
  obtain ⟨web, now, rfl⟩ := h
  have hfound : (fetchOne fetch timeout r.url web).1 = found answer r.url :=
    congrArg (fun result : CheckResult => { result with url := r.url })
      (hsteady (fetchable r.url) web)
  rw [hfound]
  exact checkedBy_checked answer now r

namespace Index

/-- The index behind a check: the same numbers, and every record has been checked. -/
def CheckedBy (answer : String → CheckResult) (x y : Index) : Prop :=
  y.last = x.last ∧
    List.Forall₂ (fun d e => e.1 = d.1 ∧ d.2.CheckedBy answer e.2) x.entries y.entries

/-- Indexes that differ at most in the times of the last checks. -/
def SameButTimes (x y : Index) : Prop :=
  x.last = y.last ∧ List.Forall₂ (fun d e => d.1 = e.1 ∧ d.2.SameButTime e.2) x.entries y.entries

/-- Lists that are related to the same list are related to each other. -/
theorem forall₂_of_common
    {α β γ : Type}
    {R : α → β → Prop}
    {S : α → γ → Prop}
    {T : β → γ → Prop}
    (hboth : ∀ a b c, R a b → S a c → T b c)
    {as : List α}
    {bs : List β}
    {cs : List γ}
    (hR : List.Forall₂ R as bs)
    (hS : List.Forall₂ S as cs) :
    List.Forall₂ T bs cs := by
  induction hR generalizing cs with
  | nil =>
      cases hS
      exact List.Forall₂.nil
  | cons hab _ ih =>
      cases hS with
      | cons hac hS => exact List.Forall₂.cons (hboth _ _ _ hab hac) (ih hS)

theorem CheckedBy.sameButTimes
    {answer : String → CheckResult}
    {x y z : Index}
    (hy : x.CheckedBy answer y)
    (hz : x.CheckedBy answer z) :
    y.SameButTimes z := by
  refine ⟨hy.1.trans hz.1.symm, forall₂_of_common ?_ hy.2 hz.2⟩
  rintro d e e' ⟨hkey, hchecked⟩ ⟨hkey', hchecked'⟩
  exact ⟨hkey.trans hkey'.symm, hchecked.sameButTime hchecked'⟩

end Index

namespace Check

/-! ## Rounds -/

section Rounds

variable {σ : Type} {a : Access σ} {fetch : Fetcher σ} {course : Course σ}
variable {timeout limit fuel : Nat} {cursor : Option Nat} {summary : CheckSummary} {s s' s'' : σ}

/-- The round that finds an empty page is the last. -/
theorem checkPages_of_empty
    (hload : (a.page cursor limit).mapFailure Failure.storage s = (.ok [], s')) :
    checkPages a fetch course timeout limit (fuel + 1) cursor summary s = (.ok summary, s') := by
  rw [checkPages, Step.bind_of_ok hload]
  rfl

/-- A round with a page goes on behind the last record of the page. -/
theorem checkPages_of_page
    {page : List LinkRecord}
    {last : LinkRecord}
    {id : Nat}
    {results : List CheckResult}
    (hload : (a.page cursor limit).mapFailure Failure.storage s = (.ok page, s'))
    (hlast : page.getLast? = some last)
    (hid : last.id = some id)
    (hcheck : checkLinks a fetch course timeout page s' = (.ok results, s'')) :
    checkPages a fetch course timeout limit (fuel + 1) cursor summary s =
      checkPages a fetch course timeout limit fuel (some id) (addResults summary results) s'' := by
  rw [checkPages, Step.bind_of_ok hload]
  simp only [hlast]
  rw [Step.bind_of_ok hcheck]
  simp only [hid, Option.isNone_some, Bool.false_eq_true, if_false]

end Rounds

/-! ## Lists page by page -/

section Pages

variable {α β : Type} {limit : Nat}

/-- A list in pages of at most `limit` members, at least one on each. -/
def pagesOf (limit : Nat) : List α → List (List α)
  | [] => []
  | a :: as => (a :: as.take (limit - 1)) :: pagesOf limit (as.drop (limit - 1))
termination_by as => as.length
decreasing_by
  rw [List.length_drop, List.length_cons]
  omega

@[simp] theorem pagesOf_nil :
    pagesOf limit ([] : List α) = [] := by
  rw [pagesOf]

/-- The first page of a list and those of the rest. -/
theorem pagesOf_of_ne_nil
    (hlimit : 1 ≤ limit)
    {as : List α}
    (h : as ≠ []) :
    pagesOf limit as = as.take limit :: pagesOf limit (as.drop limit) := by
  obtain ⟨more, rfl⟩ : ∃ more, limit = more + 1 := ⟨limit - 1, by omega⟩
  cases as with
  | nil => exact absurd rfl h
  | cons a as =>
      rw [pagesOf]
      rfl

end Pages

/-- Results may be counted in two goes. -/
theorem addResults_append
    (summary : CheckSummary)
    (results results' : List CheckResult) :
    addResults summary (results ++ results') =
      addResults (addResults summary results) results' := by
  have hle := List.length_filter_le (·.isOk) results
  have hle' := List.length_filter_le (·.isOk) results'
  simp only [addResults, List.filter_append, List.length_append, CheckSummary.mk.injEq]
  omega

variable {τ : Type} {fetch : Fetcher τ} {timeout : Nat} {answer : String → CheckResult}

variable (fetch) in
/-- Checking a part of an index fetches each of its links once and marks the records of this part,
each once, and no others. -/
theorem checkLinks_fetches_of_split
    {course : Course (Observed Index τ)}
    (hfair : course.Fair)
    {x : Index}
    (hx : x.WellFormed)
    {front page back : List (Nat × LinkRecord)}
    (hsplit : x.entries = front ++ page ++ back)
    (deeds : List Deed)
    (web : τ) :
    ∃ (urls : List String) (marked : List (Nat × LinkRecord)) (more : List Deed),
      urls.Perm (unique (page.map (·.2.url))) ∧
      checkLinks (Index.access.observed τ) (fetch.observed Index) course timeout
          (page.map (·.2)) ⟨x, deeds, web⟩ =
        (.ok (fetchAll fetch timeout urls web).1,
          ⟨{ x with entries := front ++ marked ++ back }, deeds ++ more,
            (fetchAll fetch timeout urls web).2⟩) ∧
      Index.WellFormed { x with entries := front ++ marked ++ back } ∧
      List.Forall₂ (fun d e => e.1 = d.1 ∧ MarkedBy fetch timeout d.2 e.2) page marked ∧
      (Deed.updates more).Perm (page.map (·.1)) := by
  have hmem : ∀ e ∈ page, e ∈ x.entries := by
    intro e he
    simp [hsplit, he]
  have hids := hx.ids_of_subset hmem
  have hnodup : ((page.map (·.2)).filterMap (·.id)).Nodup := by
    rw [hids]
    exact hx.nodup_keys.sublist (hsplit ▸ ((List.sublist_append_right _ _).trans
      (List.sublist_append_left _ _)).map _)
  have hstored : ∀ id ∈ (page.map (·.2)).filterMap (·.id), id ∈ x.entries.map (·.1) := by
    intro id hid
    rw [hids] at hid
    obtain ⟨e, he, rfl⟩ := List.mem_map.1 hid
    exact List.mem_map_of_mem (hmem e he)
  obtain ⟨urls, res, now, more, hurls, hgot, hupdates, hcheck⟩ :=
    checkLinks_fetches fetch timeout hfair hnodup ⟨x, deeds, web⟩ hstored
  rw [List.map_map] at hurls
  have hover := hx.overwrite_of_split hsplit
    (f := fun r => mark now (res r.url) r) fun _ => rfl
  have hwritten : x.overwrite ((page.map (·.2)).map fun r => mark now (res r.url) r) =
      { x with entries :=
          front ++ page.map (fun e => (e.1, mark now (res e.2.url) e.2)) ++ back } := by
    rw [List.map_map, ← hover]
    rfl
  rw [hwritten] at hcheck
  refine ⟨urls, page.map fun e => (e.1, mark now (res e.2.url) e.2), more, hurls, hcheck,
    hwritten ▸ hx.overwrite _, ?_, hids ▸ hupdates⟩
  rw [List.forall₂_map_right_iff, List.forall₂_same]
  intro e he
  have hurl : e.2.url ∈ urls := by
    rw [hurls.mem_iff, mem_unique]
    exact List.mem_map_of_mem (f := fun e : Nat × LinkRecord => e.2.url) he
  -- What a record is marked by is one of the results, and that was fetched at some time.
  have hresult : res e.2.url ∈ (fetchAll fetch timeout urls web).1 := by
    rw [hgot]
    exact List.mem_map_of_mem hurl
  have hnamed : (res e.2.url).url = e.2.url := by
    have hnames := url_fetchAll fetch timeout urls web
    rw [hgot, List.map_map] at hnames
    exact List.map_inj_left.1 (hnames.trans (List.map_id urls).symm) _ hurl
  obtain ⟨web', heq⟩ := exists_fetchOne_of_mem hresult
  rw [hnamed] at heq
  exact ⟨rfl, web', now, by rw [heq]⟩

/-- Marked records stand under their old numbers. -/
theorem keys_of_marked
    {es es' : List (Nat × LinkRecord)}
    (h : List.Forall₂ (fun d e => e.1 = d.1 ∧ MarkedBy fetch timeout d.2 e.2) es es') :
    es'.map (·.1) = es.map (·.1) := by
  induction h with
  | nil => rfl
  | cons hentry _ ih => rw [List.map_cons, List.map_cons, hentry.1, ih]

variable (fetch) in
/--
A check from a cursor on fetches the links of the records behind it page by page, each link once for
every page that it stands on.  It marks these records, each once, and leaves those in front as they
are, whatever number of rounds is left if it exceeds the number of these records.
-/
theorem checkPages_fetches
    {course : Course (Observed Index τ)}
    (hfair : course.Fair)
    {limit : Nat}
    (hlimit : 1 ≤ limit)
    {x : Index}
    (hx : x.WellFormed)
    {front back : List (Nat × LinkRecord)}
    (hsplit : x.entries = front ++ back)
    (deeds : List Deed)
    (web : τ)
    (summary : CheckSummary) :
    ∃ (urls : List String) (marked : List (Nat × LinkRecord)) (more : List Deed),
      urls.Perm ((pagesOf limit (back.map (·.2.url))).flatMap unique) ∧
      (∀ fuel, back.length < fuel →
        checkPages (Index.access.observed τ) (fetch.observed Index) course timeout limit fuel
            (front.getLast?.map (·.1)) summary ⟨x, deeds, web⟩ =
          (.ok (addResults summary (fetchAll fetch timeout urls web).1),
            ⟨{ x with entries := front ++ marked }, deeds ++ more,
              (fetchAll fetch timeout urls web).2⟩)) ∧
      List.Forall₂ (fun d e => e.1 = d.1 ∧ MarkedBy fetch timeout d.2 e.2) back marked ∧
      (Deed.updates more).Perm (back.map (·.1)) := by
  -- The induction is on the number of records behind the cursor, which every page makes smaller.
  induction hn : back.length using Nat.strongRecOn
    generalizing x front back deeds web summary with
  | _ n ih =>
      subst hn
      have hload : ((Index.access.observed τ).page (front.getLast?.map (·.1)) limit).mapFailure
          Failure.storage ⟨x, deeds, web⟩ =
            (.ok ((back.take limit).map (·.2)), ⟨x, deeds, web⟩) := by
        rw [← hx.page_of_split hsplit limit]
        rfl
      rcases List.eq_nil_or_concat' (back.take limit) with hnone | ⟨init, last, hpage⟩
      · have hback : back = [] := by
          rcases List.take_eq_nil_iff.1 hnone with h | h
          · omega
          · exact h
        rw [hnone] at hload
        subst hback
        refine ⟨[], [], [], by simp, ?_, List.Forall₂.nil, List.Perm.refl _⟩
        intro fuel hfuel
        obtain ⟨fuel, rfl⟩ : ∃ rounds, fuel = rounds + 1 := ⟨fuel - 1, by omega⟩
        rw [checkPages_of_empty hload, ← hsplit, List.append_nil]
        rfl
      · have hsplit' : x.entries = front ++ back.take limit ++ back.drop limit := by
          rw [List.append_assoc, List.take_append_drop, hsplit]
        obtain ⟨urls, marked, deeds', hurls, hcheck, hx', hmarked, hupdates⟩ :=
          checkLinks_fetches_of_split fetch hfair hx hsplit' deeds web
        have hless : (back.drop limit).length < back.length := by
          have hsome := congrArg List.length hpage
          rw [List.length_take, List.length_append, List.length_singleton] at hsome
          rw [List.length_drop]
          omega
        have hcursor : (front ++ marked).getLast?.map (·.1) = some last.1 := by
          rw [← List.getLast?_map, List.map_append, keys_of_marked hmarked, hpage]
          simp
        obtain ⟨urls', rest, more, hurls', hrest, hmarked', hupdates'⟩ :=
          ih _ hless hx' rfl (deeds ++ deeds') (fetchAll fetch timeout urls web).2
            (addResults summary (fetchAll fetch timeout urls web).1) rfl
        refine ⟨urls ++ urls', marked ++ rest, deeds' ++ more, ?_, ?_, ?_, ?_⟩
        · have hsome : back.map (·.2.url) ≠ [] := by
            rw [Ne, List.map_eq_nil_iff]
            rintro rfl
            exact absurd hpage (by simp)
          rw [pagesOf_of_ne_nil hlimit hsome, List.flatMap_cons, ← List.map_take, ← List.map_drop]
          exact hurls.append hurls'
        · intro fuel hfuel
          obtain ⟨fuel, rfl⟩ : ∃ rounds, fuel = rounds + 1 := ⟨fuel - 1, by omega⟩
          have hlast : ((back.take limit).map (·.2)).getLast? = some last.2 := by
            rw [hpage]
            simp
          have hid : last.2.id = some last.1 := hx.numbered last (by simp [hsplit', hpage])
          rw [checkPages_of_page hload hlast hid hcheck, ← hcursor, hrest fuel (by omega),
            fetchAll_append, addResults_append]
          simp
        · have hall := List.rel_append hmarked hmarked'
          beta_reduce at hall
          rwa [List.take_append_drop] at hall
        · have hall := hupdates.append hupdates'
          rwa [← List.map_append, List.take_append_drop, Deed.updates, Deed.updates,
            ← List.filterMap_append] at hall

/-- Marked entries are checked where the same is found of a link whenever it is fetched. -/
theorem checked_of_marked
    (hsteady : ∀ url web, (fetch url timeout web).1 = answer url)
    {es es' : List (Nat × LinkRecord)}
    (h : List.Forall₂ (fun d e => e.1 = d.1 ∧ MarkedBy fetch timeout d.2 e.2) es es') :
    List.Forall₂ (fun d e => e.1 = d.1 ∧ d.2.CheckedBy answer e.2) es es' :=
  h.imp fun _ _ hentry => ⟨hentry.1, hentry.2.checkedBy hsteady⟩

/-- Checking a part of an index marks the records of this part, each once, and no others. -/
theorem checkLinks_of_split
    (hsteady : ∀ url web, (fetch url timeout web).1 = answer url)
    {course : Course (Observed Index τ)}
    (hfair : course.Fair)
    {x : Index}
    (hx : x.WellFormed)
    {front page back : List (Nat × LinkRecord)}
    (hsplit : x.entries = front ++ page ++ back)
    (deeds : List Deed)
    (web : τ) :
    ∃ (results : List CheckResult) (marked : List (Nat × LinkRecord)) (more : List Deed) (web' : τ),
      checkLinks (Index.access.observed τ) (fetch.observed Index) course timeout
          (page.map (·.2)) ⟨x, deeds, web⟩ =
        (.ok results, ⟨{ x with entries := front ++ marked ++ back }, deeds ++ more, web'⟩) ∧
      Index.WellFormed { x with entries := front ++ marked ++ back } ∧
      List.Forall₂ (fun d e => e.1 = d.1 ∧ d.2.CheckedBy answer e.2) page marked ∧
      (Deed.updates more).Perm (page.map (·.1)) := by
  obtain ⟨_, marked, more, -, hcheck, hx', hmarked, hupdates⟩ :=
    checkLinks_fetches_of_split fetch hfair hx hsplit deeds web
  exact ⟨_, marked, more, _, hcheck, hx', checked_of_marked hsteady hmarked, hupdates⟩

/--
A check from a cursor on marks the records behind it, each once, and leaves those in front as they
are, whatever number of rounds is left if it exceeds the number of these records.
-/
theorem checkPages_observed
    (hsteady : ∀ url web, (fetch url timeout web).1 = answer url)
    {course : Course (Observed Index τ)}
    (hfair : course.Fair)
    {limit : Nat}
    (hlimit : 1 ≤ limit)
    {x : Index}
    (hx : x.WellFormed)
    {front back : List (Nat × LinkRecord)}
    (hsplit : x.entries = front ++ back)
    (deeds : List Deed)
    (web : τ)
    (summary : CheckSummary) :
    ∃ (summary' : CheckSummary) (marked : List (Nat × LinkRecord)) (more : List Deed) (web' : τ),
      (∀ fuel, back.length < fuel →
        checkPages (Index.access.observed τ) (fetch.observed Index) course timeout limit fuel
            (front.getLast?.map (·.1)) summary ⟨x, deeds, web⟩ =
          (.ok summary', ⟨{ x with entries := front ++ marked }, deeds ++ more, web'⟩)) ∧
        List.Forall₂ (fun d e => e.1 = d.1 ∧ d.2.CheckedBy answer e.2) back marked ∧
        (Deed.updates more).Perm (back.map (·.1)) := by
  obtain ⟨_, marked, more, -, hpages, hmarked, hupdates⟩ :=
    checkPages_fetches fetch hfair hlimit hx hsplit deeds web summary
  exact ⟨_, marked, more, _, hpages, checked_of_marked hsteady hmarked, hupdates⟩

/--
Checking all records page by page ends by itself, and it leaves the index as checking all records at
once does, apart from the times: every record is updated once, and it is marked by what is found of
its link.
-/
theorem checkAll_observed
    (hsteady : ∀ url web, (fetch url timeout web).1 = answer url)
    {paged whole : Course (Observed Index τ)}
    (hpaged : paged.Fair)
    (hwhole : whole.Fair)
    {x : Index}
    (hx : x.WellFormed)
    (pageSize : Nat)
    (web : τ) :
    ∃ (summary : CheckSummary) (results : List CheckResult) (o o' : Observed Index τ),
      checkAll (Index.access.observed τ) (fetch.observed Index) paged timeout pageSize
          ⟨x, [], web⟩ = (.ok summary, o) ∧
        (∀ fuel, x.count < fuel →
          checkPages (Index.access.observed τ) (fetch.observed Index) paged timeout
            (max pageSize 1) fuel none ⟨0, 0, 0⟩ ⟨x, [], web⟩ = (.ok summary, o)) ∧
        checkLinks (Index.access.observed τ) (fetch.observed Index) whole timeout x.records
          ⟨x, [], web⟩ = (.ok results, o') ∧
        o.store.SameButTimes o'.store ∧
        x.CheckedBy answer o.store ∧
        (Deed.updates o.deeds).Perm (x.entries.map (·.1)) := by
  have hsplit : x.entries = [] ++ x.entries := rfl
  have hsplit' : x.entries = [] ++ x.entries ++ [] := (List.append_nil x.entries).symm
  obtain ⟨summary, marked, deeds, web', hpages, hmarked, hupdates⟩ :=
    checkPages_observed hsteady hpaged (Nat.le_max_right pageSize 1) hx hsplit [] web ⟨0, 0, 0⟩
  obtain ⟨results, marked', deeds', web'', hlinks, -, hmarked', -⟩ :=
    checkLinks_of_split hsteady hwhole hx hsplit' [] web
  rw [List.nil_append, List.append_nil] at hlinks
  have hpaged : x.CheckedBy answer { x with entries := marked } := ⟨rfl, hmarked⟩
  have hwhole : x.CheckedBy answer { x with entries := marked' } := ⟨rfl, hmarked'⟩
  exact ⟨summary, results, _, _, hpages (x.count + 1) (Nat.lt_succ_self _), hpages, hlinks,
    hpaged.sameButTimes hwhole, hpaged, hupdates⟩

-- The pages have one record each; no record is passed over, and none is checked twice.
example :
    (checkAll (Index.access.observed Unit)
      (Fetcher.observed (fun url _ web => (⟨url, .broken, some 404, none⟩, web)) Index)
      ⟨fun _ urls => urls, fun _ => ⟨0, 0, 0⟩⟩ 1000 0
      ⟨((Index.empty.create (.ofOccurrence "//a" ⟨"node", "1"⟩ "see" "en")).2.create
        (.ofOccurrence "//a" ⟨"node", "2"⟩ "see" "en")).2, [], ()⟩).2.store.records.map
          (·.failCount) = [1, 1] := by
  decide

/-- Two records of one link on different pages, whose results come in another order. -/
theorem checkAll_observed_repeated_link :
    ∃ x : Index, ∃ summary, ∃ o : Observed Index Unit,
      x = ((Index.empty.create (.ofOccurrence "//a" ⟨"node", "1"⟩ "see" "en")).2.create
        (.ofOccurrence "//a" ⟨"node", "2"⟩ "see" "en")).2 ∧
      checkAll (Index.access.observed Unit)
          (Fetcher.observed (fun url _ web => (⟨url, .broken, some 404, none⟩, web)) Index)
          ⟨fun _ urls => urls.reverse, fun _ => ⟨0, 0, 0⟩⟩ 1000 0 ⟨x, [], ()⟩ = (.ok summary, o) ∧
        (Deed.updates o.deeds).Perm [1, 2] := by
  obtain ⟨summary, results, o, o', hcheck, -, -, -, -, hupdates⟩ :=
    @checkAll_observed Unit (fun url _ web => (⟨url, .broken, some 404, none⟩, web)) 1000
      (fun url => ⟨url, .broken, some 404, none⟩) (fun _ _ => rfl)
      ⟨fun _ urls => urls.reverse, fun _ => ⟨0, 0, 0⟩⟩ ⟨fun _ urls => urls, fun _ => ⟨0, 0, 0⟩⟩
      (fun _ urls => urls.reverse_perm) (fun _ urls => List.Perm.refl urls) _
      ((Index.wellFormed_empty.create (.ofOccurrence "//a" ⟨"node", "1"⟩ "see" "en")).create
        (.ofOccurrence "//a" ⟨"node", "2"⟩ "see" "en")) 0 ()
  exact ⟨_, summary, o, rfl, hcheck, hupdates⟩

end Check
end LinkLedger
