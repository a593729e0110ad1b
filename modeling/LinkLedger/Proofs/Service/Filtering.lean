import LinkLedger.Proofs.Extract.FirstOccurrences
import LinkLedger.Proofs.Service.Occurrences

/-!
# Settings filter links

The absolute form of a reference depends on the site and the base alone.  Excluded patterns and the
kinds that are tracked only decide whether a link stays, by its absolute form, so it does not matter
whether they do so before repetitions are dropped or after.

**Results.**
* `Classifier.permits_kindOf`, `Classifier.classify_kept`: what excluded patterns take away.
* `Classifier.links_eq_filter`: links are those that no settings hold back, filtered.
* `getLinks_filtered`: what follows for the links of different settings.
-/

namespace LinkLedger

theorem KindFilter.permits_all_of_permits
    {f : KindFilter}
    {k : LinkKind}
    (h : f.permits k = true) :
    KindFilter.all.permits k = true := by
  rw [permits_iff] at h ⊢
  exact h.imp (fun h => ⟨h.1, nofun⟩) fun h => ⟨h.1, nofun⟩

/-- A link of one kind only. -/
theorem KindFilter.permits_external
    {k : LinkKind}
    (h : KindFilter.all.permits k = true) :
    KindFilter.external.permits k = !KindFilter.internal.permits k := by
  cases k with
  | internal => rfl
  | external => rfl
  | blacklisted => cases h
  | unsupported => cases h

namespace Classifier

/-! ## What excluded patterns take away -/

theorem classify_lenient_url
    (c : Classifier)
    (raw base : String) :
    (c.lenient.classify raw base).url = (c.classify raw base).url := by
  unfold classify
  split
  · rfl
  · rfl

theorem permits_kindOf
    (c : Classifier)
    (url : String) :
    c.kinds.permits (c.kindOf url) =
      (c.kinds.permits (c.lenient.kindOf url) && !c.excludes url) := by
  have hnone : c.lenient.excludes url = false := rfl
  have horigin : c.lenient.webOrigin? url.toList = c.webOrigin? url.toList := by
    simp only [webOrigin?, siteScheme, lenient]
  have hsite : c.lenient.siteOrigin? = c.siteOrigin? := rfl
  unfold kindOf
  rw [hnone, horigin, hsite]
  split
  · rw [not_permits_unsupported, Bool.false_and]
  · split
    · rw [not_permits_unsupported, Bool.false_and]
    · cases c.excludes url with
      | false => simp only [Bool.false_eq_true, if_false, Bool.not_false, Bool.and_true]
      | true =>
          rw [if_pos rfl, Bool.not_true, Bool.and_false]
          cases c.kinds <;> rfl

/-- A reference is tracked if it is without excluded patterns and has none of them. -/
theorem classify_kept
    (c : Classifier)
    (raw base : String) :
    (c.classify raw base).kept =
      ((c.lenient.classify raw base).kept && !c.excludes (c.classify raw base).url) := by
  by_cases hblank : Text.trim raw.toList = []
  · rw [classify_of_blank hblank, classify_of_blank hblank, judge_kept, judge_kept,
      not_permits_unsupported, not_permits_unsupported, Bool.false_and]
  · have hkept := c.permits_kindOf (Link.resolveText raw base c.site)
    rw [classify_of_not_blank hblank, classify_of_not_blank hblank, judge_kept, judge_kept,
      judge_url, hkept]
    rfl

/-- The tracked links are those that are tracked without excluded patterns and have none of them. -/
theorem mem_links_iff
    {c : Classifier}
    {references : List String}
    {base url : String} :
    url ∈ c.links references base ↔
      url ∈ c.lenient.links references base ∧ c.excludes url = false := by
  rw [mem_links, mem_links]
  constructor
  · rintro ⟨raw, hraw, hkept, rfl⟩
    rw [classify_kept, Bool.and_eq_true, Bool.not_eq_true'] at hkept
    exact ⟨⟨raw, hraw, hkept.1, classify_lenient_url c raw base⟩, hkept.2⟩
  · rintro ⟨⟨raw, hraw, hkept, rfl⟩, hfree⟩
    rw [classify_lenient_url] at hfree ⊢
    refine ⟨raw, hraw, ?_, rfl⟩
    rw [classify_kept, hkept, hfree]
    rfl

/-! ## Links that no settings hold back -/

/-- The classifier of the same site that excludes nothing and tracks both kinds. -/
def unfiltered (c : Classifier) : Classifier := ⟨c.site, [], .all⟩

/-- Whether a link has no excluded pattern and is of a kind that is tracked. -/
def tracks (c : Classifier) (url : String) : Bool :=
  !c.excludes url && c.kinds.permits (c.unfiltered.kindOf url)

/-- The absolute form of a reference if it is tracked. -/
def tracked? (c : Classifier) (base raw : String) : Option String :=
  if (c.classify raw base).kept then some (c.classify raw base).url else none

/-- Links are the absolute forms of tracked references, each once. -/
theorem links_eq_unique
    (c : Classifier)
    (references : List String)
    (base : String) :
    c.links references base = unique (references.filterMap (c.tracked? base)) := by
  rw [links]
  congr 1
  induction references with
  | nil => rfl
  | cons raw references ih =>
      rw [List.map_cons]
      cases hkept : (c.classify raw base).kept with
      | false =>
          have hnone : c.tracked? base raw = none := by simp [tracked?, hkept]
          rw [List.filter_cons_of_neg (by simp [hkept]), List.filterMap_cons_none hnone, ih]
      | true =>
          have hsome : c.tracked? base raw = some (c.classify raw base).url := by
            simp [tracked?, hkept]
          rw [List.filter_cons_of_pos hkept, List.filterMap_cons_some hsome, List.map_cons, ih]

/-- The kind of a link does not depend on the kinds that are tracked. -/
theorem kindOf_unfiltered
    (c : Classifier)
    (url : String) :
    c.unfiltered.kindOf url = c.lenient.kindOf url := by
  have horigin : c.unfiltered.webOrigin? url.toList = c.lenient.webOrigin? url.toList := by
    simp only [webOrigin?, siteScheme, unfiltered, lenient]
  have hsite : c.unfiltered.siteOrigin? = c.lenient.siteOrigin? := rfl
  have hnone : c.unfiltered.excludes url = c.lenient.excludes url := rfl
  rw [kindOf, kindOf, horigin, hsite, hnone]

/-- A reference is tracked if it is one of the web and the settings let its absolute form pass. -/
theorem tracked?_eq_filter
    (c : Classifier)
    (base raw : String) :
    c.tracked? base raw = (c.unfiltered.tracked? base raw).filter c.tracks := by
  by_cases hblank : Text.trim raw.toList = []
  · simp only [tracked?, classify_of_blank hblank, judge_kept, not_permits_unsupported,
      Bool.false_eq_true, if_false, Option.filter_none]
  · have hsite : c.unfiltered.site = c.site := rfl
    have hkinds : c.unfiltered.kinds = .all := rfl
    rw [tracked?, tracked?, classify_of_not_blank hblank, classify_of_not_blank hblank, hsite]
    generalize Link.resolveText raw base c.site = url
    have htracks : c.tracks url = c.kinds.permits (c.kindOf url) := by
      rw [tracks, kindOf_unfiltered, permits_kindOf, Bool.and_comm]
    rw [judge_kept, judge_kept, judge_url, judge_url, hkinds, ← htracks]
    by_cases hweb : KindFilter.all.permits (c.unfiltered.kindOf url) = true
    · rw [if_pos hweb, Option.filter_some]
    · have hnot : ¬c.tracks url = true := fun h =>
        hweb (KindFilter.permits_all_of_permits (Bool.and_eq_true_iff.1 h).2)
      rw [if_neg hweb, if_neg hnot, Option.filter_none]

theorem links_eq_filter
    (c : Classifier)
    (references : List String)
    (base : String) :
    c.links references base = (c.unfiltered.links references base).filter c.tracks := by
  rw [links_eq_unique, links_eq_unique, ← unique_filter, List.filter_filterMap]
  congr 1
  exact List.filterMap_congr fun raw _ => c.tracked?_eq_filter base raw

/-- More patterns exclude more. -/
theorem tracks_of_subset
    {c d : Classifier}
    {url : String}
    (hsite : d.site = c.site)
    (hkinds : d.kinds = c.kinds)
    (hexcluded : c.excluded ⊆ d.excluded)
    (h : d.tracks url = true) :
    c.tracks url = true := by
  obtain ⟨hfree, hkind⟩ := Bool.and_eq_true_iff.1 h
  have hopen : d.unfiltered = c.unfiltered := by
    rw [unfiltered, unfiltered, hsite]
  have hfree' : c.excludes url = false := by
    rw [Bool.not_eq_true', excludes, List.any_eq_false] at hfree
    rw [excludes, List.any_eq_false]
    exact fun pattern hpattern => hfree pattern (hexcluded hpattern)
  rw [hkinds, hopen] at hkind
  rw [tracks, hfree', hkind]
  rfl

end Classifier

namespace Service

open Text

/-- The service with other excluded patterns. -/
def excluding (s : Service) (excluded : String) : Service :=
  { s with settings := { s.settings with check := { s.settings.check with excluded := excluded } } }

/-- The service with another choice of the kinds that are tracked. -/
def tracking (s : Service) (kinds : KindFilter) : Service :=
  { s with settings := { s.settings with kinds := kinds } }

theorem excludedPatterns_of_empty
    {s : Settings}
    (h : s.check.excluded = "") :
    s.excludedPatterns = [] := by
  rw [Settings.excludedPatterns, h]
  decide +kernel

theorem classifier_unfiltered
    (s : Service) :
    ((s.excluding "").tracking .all).classifier = s.classifier.unfiltered := by
  have hnone : ((s.excluding "").tracking .all).settings.excludedPatterns = [] :=
    excludedPatterns_of_empty rfl
  rw [classifier, Classifier.ofSettings, hnone]
  rfl

section Settings

variable (s : Service) (octets : List (List UInt8)) (base : Option String)

theorem getLinks_eq_filter :
    s.getLinks octets base =
      (((s.excluding "").tracking .all).getLinks octets base).filter s.classifier.tracks := by
  rw [getLinks, getLinks, classifier_unfiltered]
  exact s.classifier.links_eq_filter _ _

/-- The links of some kinds are those links of both that are of these kinds. -/
theorem getLinks_tracking
    (kinds : KindFilter) :
    (s.tracking kinds).getLinks octets base =
      ((s.tracking .all).getLinks octets base).filter fun url =>
        kinds.permits (s.classifier.unfiltered.kindOf url) := by
  have hkinds := (s.tracking kinds).getLinks_eq_filter octets base
  have hall := (s.tracking .all).getLinks_eq_filter octets base
  change _ = (((s.excluding "").tracking .all).getLinks octets base).filter _ at hkinds hall
  rw [hkinds, hall, List.filter_filter]
  refine List.filter_congr fun url _ => ?_
  have htracks : ∀ k, (s.tracking k).classifier.tracks url =
      (!s.classifier.excludes url && k.permits (s.classifier.unfiltered.kindOf url)) :=
    fun _ => rfl
  rw [htracks, htracks, Bool.and_left_comm]
  cases hkind : kinds.permits (s.classifier.unfiltered.kindOf url) with
  | false => simp
  | true => rw [KindFilter.permits_all_of_permits hkind, Bool.true_and]

/-- Every link is internal or external, and none is both. -/
theorem getLinks_internal_external :
    ((s.tracking .internal).getLinks octets base ++
        (s.tracking .external).getLinks octets base).Perm ((s.tracking .all).getLinks octets base) ∧
      ((s.tracking .internal).getLinks octets base).Disjoint
        ((s.tracking .external).getLinks octets base) := by
  have hexternal : (s.tracking .external).getLinks octets base =
      ((s.tracking .all).getLinks octets base).filter fun url =>
        !KindFilter.internal.permits (s.classifier.unfiltered.kindOf url) := by
    rw [s.getLinks_tracking octets base .external]
    refine List.filter_congr fun url hurl => KindFilter.permits_external ?_
    rw [s.getLinks_tracking octets base .all] at hurl
    exact (List.mem_filter.1 hurl).2
  rw [hexternal, s.getLinks_tracking octets base .internal]
  refine ⟨List.filter_append_perm _ _, fun url hin hout => ?_⟩
  have hnot := (List.mem_filter.1 hout).2
  rw [(List.mem_filter.1 hin).2] at hnot
  cases hnot

end Settings

/-- Octets that are no text are passed over. -/
theorem readable_filter
    (octets : List (List UInt8)) :
    readable (octets.filter fun raw => (decodeOctets raw).isOk) = readable octets := by
  rw [readable, readable, List.filterMap_filter]
  refine List.filterMap_congr fun raw _ => ?_
  cases decodeOctets raw with
  | error fault => rfl
  | ok text => rfl

/--
Settings filter links and do nothing else.  The links of references are those that no settings hold
back, in their order, without those that contain an excluded pattern or are of a kind that is not
tracked.  So the internal and the external links make up all links and have none in common, links
only get less when patterns are added, and references that are no text may stand anywhere.
-/
theorem getLinks_filtered
    (octets : List (List UInt8)) :
    (∀ (c : Classifier) (base : String),
      c.links (readable octets) base =
        (c.unfiltered.links (readable octets) base).filter c.tracks) ∧
    ∀ (s : Service) (base : Option String),
      s.getLinks octets base =
          (((s.excluding "").tracking .all).getLinks octets base).filter s.classifier.tracks ∧
        (((s.tracking .internal).getLinks octets base ++
            (s.tracking .external).getLinks octets base).Perm
              ((s.tracking .all).getLinks octets base) ∧
          ((s.tracking .internal).getLinks octets base).Disjoint
            ((s.tracking .external).getLinks octets base)) ∧
        (∀ excluded,
          s.settings.excludedPatterns ⊆ (s.excluding excluded).settings.excludedPatterns →
            ((s.excluding excluded).getLinks octets base).Sublist (s.getLinks octets base)) ∧
        ∀ more : List (List UInt8),
          (more.filter fun raw => (decodeOctets raw).isOk) =
              octets.filter (fun raw => (decodeOctets raw).isOk) →
            s.getLinks more base = s.getLinks octets base := by
  refine ⟨fun c base => c.links_eq_filter _ base, fun s base => ⟨s.getLinks_eq_filter octets base,
    s.getLinks_internal_external octets base, fun excluded hsubset => ?_, fun more hmore => ?_⟩⟩
  · have hless := (s.excluding excluded).getLinks_eq_filter octets base
    change _ = (((s.excluding "").tracking .all).getLinks octets base).filter _ at hless
    rw [hless, s.getLinks_eq_filter octets base]
    exact List.monotone_filter_right _ fun url h =>
      Classifier.tracks_of_subset (d := (s.excluding excluded).classifier) rfl rfl hsubset h
  · rw [getLinks, getLinks, ← readable_filter more, hmore, readable_filter]

/-- Links of both kinds, one of them twice, an excluded one, and octets that are no text. -/
theorem getLinks_filtered_repeated_link :
    let s : Service :=
      ⟨{ Settings.standard with sitePath := "[::1]", check := ⟨"dead", 1, 1⟩ }, .standard⟩
    let raw := ["/a", "http://[::2]/b", " http://[::1]/a", "http://[::3]/dead", "mailto:a"].map octets
    s.getLinks raw none = ["http://[::1]/a", "http://[::2]/b"] ∧
      (s.tracking .internal).getLinks raw none = ["http://[::1]/a"] ∧
      ((s.excluding "dead\n[::2]").getLinks raw none).Sublist (s.getLinks raw none) ∧
      s.getLinks ([[0xFF]] ++ raw ++ [[0x80]]) none = s.getLinks raw none := by
  intro s raw
  obtain ⟨hfilter, -, hless, hmore⟩ := (getLinks_filtered raw).2 s none
  refine ⟨hfilter.trans ?_, ?_, hless _ ?_, hmore _ ?_⟩
  · decide +kernel
  · decide +kernel
  · decide +kernel
  · decide +kernel

end Service

end LinkLedger
