import LinkLedger.Proofs.Check.Paging

/-!
# Links on several pages

A check of all records knows the links of one page at a time.  So a link is fetched, and counted,
once for every page that it stands on, and once in all only if no page shares a link with another.

**Results.**
* `mem_flatMap_unique_pagesOf`, `count_flatMap_unique`: the links of the pages, and how often each
  of them occurs.
* `length_flatMap_unique_iff`: pages count each link once exactly if they share none.
* `checkAll_repeats`: how often a check of all records asks for a link, and what it counts.
-/

namespace LinkLedger
namespace Check

/-! ## Links of pages -/

/-- The pages hold what the list holds. -/
theorem flatten_pagesOf
    {α : Type}
    (limit : Nat)
    (as : List α) :
    (pagesOf limit as).flatten = as := by
  induction as using pagesOf.induct limit with
  | case1 => rw [pagesOf_nil, List.flatten_nil]
  | case2 a as ih =>
      rw [pagesOf, List.flatten_cons, ih, List.cons_append, List.take_append_drop]

theorem mem_flatMap_unique_pagesOf
    {limit : Nat}
    {urls : List String}
    {url : String} :
    url ∈ (pagesOf limit urls).flatMap unique ↔ url ∈ urls := by
  conv_rhs => rw [← flatten_pagesOf limit urls, List.mem_flatten]
  simp only [List.mem_flatMap, mem_unique]

/-- A link occurs once for every page that it stands on. -/
theorem count_flatMap_unique
    (pages : List (List String))
    (url : String) :
    (pages.flatMap unique).count url = pages.countP fun page => decide (url ∈ page) := by
  induction pages with
  | nil => rfl
  | cons page pages ih =>
      have hpage : (unique page).count url = if url ∈ page then 1 else 0 := by
        rw [(nodup_unique page).count]
        simp only [mem_unique]
      rw [List.flatMap_cons, List.count_append, ih, hpage, List.countP_cons, Nat.add_comm]
      simp only [decide_eq_true_eq]

/-- No link occurs twice exactly if no two pages share one. -/
theorem nodup_flatMap_unique
    (pages : List (List String)) :
    (pages.flatMap unique).Nodup ↔ pages.Pairwise List.Disjoint := by
  have hshared : ∀ page page' : List String,
      Function.onFun List.Disjoint unique page page' ↔ page.Disjoint page' := by
    intro page page'
    simp only [Function.onFun, List.Disjoint, mem_unique]
  rw [List.nodup_flatMap, List.Pairwise.iff hshared]
  exact and_iff_right fun page _ => nodup_unique page

/-- The pages have as many links as the list exactly if no two of them share one. -/
theorem length_flatMap_unique_iff
    (limit : Nat)
    (urls : List String) :
    ((pagesOf limit urls).flatMap unique).length = (unique urls).length ↔
      (pagesOf limit urls).Pairwise List.Disjoint := by
  rw [← nodup_flatMap_unique]
  have hsame : ∀ url, url ∈ unique urls ↔ url ∈ (pagesOf limit urls).flatMap unique := by
    intro url
    rw [mem_flatMap_unique_pagesOf, mem_unique]
  constructor
  · intro hlength
    have hsub : (unique urls).Subperm ((pagesOf limit urls).flatMap unique) :=
      List.subperm_of_subset (nodup_unique urls) fun url hurl => (hsame url).1 hurl
    exact (hsub.perm_of_length_le (Nat.le_of_eq hlength)).nodup_iff.1 (nodup_unique urls)
  · intro hnodup
    exact ((List.perm_ext_iff_of_nodup (nodup_unique urls) hnodup).2 hsame).length_eq.symm

/-! ## What is counted -/

/-- Every result counts as one that leads somewhere or as one that does not. -/
theorem ok_add_broken_addResults
    (summary : CheckSummary)
    (results : List CheckResult) :
    (addResults summary results).ok + (addResults summary results).broken =
      summary.ok + summary.broken + results.length := by
  have hle := List.length_filter_le (·.isOk) results
  simp only [addResults]
  omega

/--
A check of all records asks for a link once for every page that the link stands on, whatever is
found.  It counts every answer, each as good or as broken.  So it counts the links themselves exactly
if no two pages share one.
-/
theorem checkAll_repeats
    {τ : Type}
    (fetch : Fetcher τ)
    (timeout : Nat)
    {course : Course (Observed Index (Noted τ))}
    (hfair : course.Fair)
    {x : Index}
    (hx : x.WellFormed)
    (pageSize : Nat)
    (deeds : List Deed)
    (web : Noted τ) :
    ∃ (summary : CheckSummary) (urls : List String) (o : Observed Index (Noted τ)),
      checkAll (Index.access.observed (Noted τ)) (fetch.noted.observed Index) course timeout
          pageSize ⟨x, deeds, web⟩ = (.ok summary, o) ∧
        o.web.calls = web.calls ++ urls.map (fun url => (fetchable url, timeout)) ∧
        (∀ url, urls.count url =
          (pagesOf (max pageSize 1) (x.records.map (·.url))).countP fun page =>
            decide (url ∈ page)) ∧
        summary.checked = urls.length ∧
        summary.ok + summary.broken = summary.checked ∧
        (summary.checked = (unique (x.records.map (·.url))).length ↔
          (pagesOf (max pageSize 1) (x.records.map (·.url))).Pairwise List.Disjoint) := by
  have hurls : x.entries.map (·.2.url) = x.records.map (·.url) := (List.map_map ..).symm
  obtain ⟨urls, marked, more, hpages, hcheck, -, -⟩ :=
    @checkPages_fetches _ fetch.noted timeout course hfair _ (Nat.le_max_right pageSize 1) x hx
      _ _ (List.nil_append x.entries).symm deeds web ⟨0, 0, 0⟩
  rw [hurls] at hpages
  have hall := hcheck (x.count + 1) (Nat.lt_succ_self _)
  rw [fetchAll_noted] at hall
  have hlength : (fetchAll fetch timeout urls web.web).1.length = urls.length := by
    rw [← List.length_map, url_fetchAll]
  have hchecked : (addResults ⟨0, 0, 0⟩ (fetchAll fetch timeout urls web.web).1).checked =
      urls.length := (Nat.zero_add _).trans hlength
  refine ⟨_, urls, _, hall, rfl, fun url => ?_, hchecked, ?_, ?_⟩
  · rw [hpages.count_eq, count_flatMap_unique]
  · rw [ok_add_broken_addResults, hchecked, hlength, Nat.zero_add, Nat.zero_add]
  · rw [hchecked, hpages.length_eq, length_flatMap_unique_iff]

/-- Three records of two links, two on a page, the shared link on both pages. -/
theorem checkAll_repeats_shared_link :
    ∃ (x : Index) (summary : CheckSummary) (urls : List String) (o : Observed Index (Noted Unit)),
      x = (((Index.empty.create (.ofOccurrence "//a" ⟨"node", "1"⟩ "see" "en")).2.create
        (.ofOccurrence "//b" ⟨"node", "1"⟩ "see" "en")).2.create
          (.ofOccurrence "//a" ⟨"node", "2"⟩ "see" "en")).2 ∧
      checkAll (Index.access.observed (Noted Unit))
          ((Fetcher.noted fun url _ web => (⟨url, .broken, none, none⟩, web)).observed Index)
          ⟨fun _ urls => urls.reverse, fun _ => ⟨0, 0, 0⟩⟩ 1000 2 ⟨x, [], ⟨[], ()⟩⟩ =
        (.ok summary, o) ∧
      urls.count "//a" = 2 ∧
      urls.count "//b" = 1 ∧
      summary.checked ≠ 2 := by
  obtain ⟨summary, urls, o, hcheck, -, hcount, -, -, hshared⟩ :=
    @checkAll_repeats Unit (fun url _ web => (⟨url, .broken, none, none⟩, web)) 1000
      ⟨fun _ urls => urls.reverse, fun _ => ⟨0, 0, 0⟩⟩ (fun _ urls => urls.reverse_perm) _
      (((Index.wellFormed_empty.create (.ofOccurrence "//a" ⟨"node", "1"⟩ "see" "en")).create
        (.ofOccurrence "//b" ⟨"node", "1"⟩ "see" "en")).create
          (.ofOccurrence "//a" ⟨"node", "2"⟩ "see" "en")) 2 [] ⟨[], ()⟩
  have hpages : pagesOf (max 2 1) ["//a", "//b", "//a"] = [["//a", "//b"], ["//a"]] := by
    simp [pagesOf]
  refine ⟨_, summary, urls, o, rfl, hcheck, ?_, ?_, fun htwo => ?_⟩
  · exact (hcount "//a").trans (congrArg _ hpages)
  · exact (hcount "//b").trans (congrArg _ hpages)
  · have hdisjoint := hshared.1 htwo
    change (pagesOf (max 2 1) ["//a", "//b", "//a"]).Pairwise List.Disjoint at hdisjoint
    rw [hpages] at hdisjoint
    simp at hdisjoint

/-- A link of two records, one on a page, is asked for twice and counted twice. -/
theorem checkAll_asks_twice :
    let x := ((Index.empty.create (.ofOccurrence "//a" ⟨"node", "1"⟩ "see" "en")).2.create
      (.ofOccurrence "//a" ⟨"node", "2"⟩ "see" "en")).2
    let run := checkAll (Index.access.observed (Noted Unit))
      ((Fetcher.noted fun url _ web => (⟨url, .ok, none, none⟩, web)).observed Index)
      ⟨fun _ urls => urls, fun _ => ⟨0, 0, 0⟩⟩ 1000 1 ⟨x, [], ⟨[], ()⟩⟩
    run.1 = .ok ⟨2, 2, 0⟩ ∧
      run.2.web.calls = [("http://a", 1000), ("http://a", 1000)] ∧
      unique (x.records.map (·.url)) = ["//a"] := by
  refine ⟨rfl, ?_, ?_⟩ <;> decide

end Check
end LinkLedger
