import LinkLedger.Proofs.Service.Filtering
import LinkLedger.Proofs.Service.Retry

/-!
# The records of content

Content gives a record for every link of a searched field in every language that some field has an
entry for.  Fields that only have a configuration and languages that only other fields have are
looked at like all others, and no field and no language is looked at twice.

**Results.**
* `Content.mem_languages_iff`, `Content.nodup_fieldNames`, `Content.nodup_languages`: what is looked
  at.
* `Classifier.trackable_of_mem_links`: what every tracked link is like.
* `pairwise_contentRecords`: no occurrence has two records.
* `missing_eq_self`: different records are all saved if the index has none of them.
* `contentRecords_exactly_once`: the records of content, and saving them for the first time.
-/

namespace LinkLedger

open Extract Text

/-! ## Fields and languages -/

theorem ContentView.isScanned_iff
    {c : ContentView}
    {field : String} :
    c.isScanned field = true ↔ ∃ config, c.config? field = some config ∧ config.scan = true := by
  rw [isScanned]
  cases c.config? field with
  | none => simp
  | some config => simp

namespace Content

/-- The languages are those that some field has an entry for. -/
theorem mem_languages_iff
    {c : Content}
    {language : String} :
    language ∈ c.languages ↔
      ∃ field byLanguage values,
        c.fields.find? field = some byLanguage ∧ byLanguage.find? language = some values := by
  have hentries : ((c.fields.entries.flatMap fun f => f.2.names).map fun l => (l, ())).map (·.1) =
      c.fields.entries.flatMap fun f => f.2.names := by
    rw [List.map_map]
    exact List.map_id _
  rw [languages, Table.mem_names_ofList, hentries, List.mem_flatMap]
  constructor
  · rintro ⟨⟨field, byLanguage⟩, hfield, hlanguage⟩
    obtain ⟨values, hvalues⟩ := Table.mem_names_iff.1 hlanguage
    exact ⟨field, byLanguage, values, Table.find?_eq_some_iff.2 hfield, hvalues⟩
  · rintro ⟨field, byLanguage, values, hfield, hvalues⟩
    exact ⟨(field, byLanguage), Table.find?_eq_some_iff.1 hfield,
      Table.mem_names_of_find? hvalues⟩

theorem nodup_languages
    (c : Content) :
    c.languages.Nodup :=
  Table.nodup_names _

/-- Fields with values and a configuration are listed once. -/
theorem nodup_fieldNames
    (c : Content) :
    c.fieldNames.Nodup := by
  rw [fieldNames, List.nodup_append]
  refine ⟨Table.nodup_names _, (Table.nodup_names _).filter _, ?_⟩
  rintro name hfield other hconfig rfl
  have hnot := (List.mem_filter.1 hconfig).2
  rw [Bool.not_eq_true', List.contains_eq_mem, decide_eq_false_iff_not] at hnot
  exact hnot hfield

end Content

/-! ## Tracked links -/

namespace Classifier

/-- What every tracked link is like: neither blank nor too long, without the excluded patterns, and
of a kind that is tracked. -/
structure Trackable (c : Classifier) (url : String) : Prop where
  notBlank : isBlankText url.toList = false
  short : url.length ≤ 2048
  free : ∀ pattern ∈ c.excluded, ¬ pattern.toList <:+: url.toList
  kind : c.kinds.permits (c.kindOf url) = true

theorem length_of_permits
    {c : Classifier}
    {url : String}
    (h : c.kinds.permits (c.kindOf url) = true) :
    url.length ≤ maxLinkLength := by
  by_contra hlong
  rw [kindOf, if_pos (Nat.lt_of_not_le hlong), not_permits_unsupported] at h
  cases h

theorem not_isInfix_of_permits
    {c : Classifier}
    {url pattern : String}
    (h : c.kinds.permits (c.kindOf url) = true)
    (hpattern : pattern ∈ c.excluded) :
    ¬ pattern.toList <:+: url.toList := by
  rw [permits_kindOf, Bool.and_eq_true, Bool.not_eq_true', excludes, List.any_eq_false] at h
  have hnot := h.2 pattern hpattern
  rwa [contains, occursIn_iff] at hnot

theorem trackable_of_mem_links
    {c : Classifier}
    {references : List String}
    {base url : String}
    (h : url ∈ c.links references base) :
    c.Trackable url := by
  obtain ⟨raw, -, hkept, rfl⟩ := mem_links.1 h
  have hraw := trim_ne_nil_of_kept hkept
  rw [classify_of_not_blank hraw, judge_kept] at hkept
  rw [classify_of_not_blank hraw, judge_url]
  refine ⟨?_, length_of_permits hkept, fun _ => not_isInfix_of_permits hkept, hkept⟩
  rw [Link.resolveText, String.toList_ofList]
  exact Link.isBlankText_resolve hraw _ _

end Classifier

namespace Service

/-! ## One record for each occurrence -/

theorem nodup_fieldLinks
    (s : Service)
    (c : ContentView)
    (field language : String) :
    (s.fieldLinks c field language).Nodup := by
  rw [fieldLinks]
  split
  · exact nodup_unique _
  · exact List.nodup_nil

/-- Two records of content are different in their fields, their languages or their links. -/
theorem pairwise_contentRecords
    (s : Service)
    (c : Content) :
    (s.contentRecords c).Pairwise fun a b => a.sameOccurrence b = false := by
  have hdiffer : ∀ {a b : LinkRecord}, ¬ (a.url = b.url ∧ a.field = b.field ∧
      a.language = b.language) → a.sameOccurrence b = false := by
    intro a b hne
    rw [← Bool.not_eq_true, LinkRecord.sameOccurrence_iff]
    exact fun h => hne ⟨h.1, h.2.2⟩
  rw [contentRecords, List.pairwise_flatMap]
  refine ⟨fun field _ => ?_, (c.nodup_fieldNames.filter _).imp ?_⟩
  · rw [List.pairwise_flatMap]
    refine ⟨fun language _ => ?_, c.nodup_languages.imp ?_⟩
    · refine List.pairwise_map.2 ((s.nodup_fieldLinks c field language).imp ?_)
      exact fun hne => hdiffer fun h => hne h.1
    · intro language language' hne a ha b hb
      obtain ⟨url, -, rfl⟩ := List.mem_map.1 ha
      obtain ⟨url', -, rfl⟩ := List.mem_map.1 hb
      exact hdiffer fun h => hne h.2.2
  · intro field field' hne a ha b hb
    obtain ⟨language, -, ha⟩ := List.mem_flatMap.1 ha
    obtain ⟨language', -, hb⟩ := List.mem_flatMap.1 hb
    obtain ⟨url, -, rfl⟩ := List.mem_map.1 ha
    obtain ⟨url', -, rfl⟩ := List.mem_map.1 hb
    exact hdiffer fun h => hne h.2.1

/-! ## Saving for the first time -/

/-- Nothing is left out of records that are different from each other and from all known ones. -/
theorem missing_eq_self
    {known rs : List LinkRecord}
    (hnew : ∀ r ∈ rs, known.any (·.sameOccurrence r) = false)
    (hdiffer : rs.Pairwise fun a b => a.sameOccurrence b = false) :
    missing known rs = rs := by
  induction rs generalizing known with
  | nil => rfl
  | cons r rs ih =>
      obtain ⟨hfirst, hrest⟩ := List.pairwise_cons.1 hdiffer
      have hbehind : ∀ q ∈ rs, (r :: known).any (·.sameOccurrence q) = false := by
        intro q hq
        rw [List.any_cons, hfirst q hq, hnew q (List.mem_cons_of_mem r hq), Bool.or_self]
      rw [missing, hnew r List.mem_cons_self, if_neg Bool.false_ne_true, ih hbehind hrest]

/-- The records of content are all stored by an index without records of the owner. -/
theorem save_contentRecords
    (s : Service)
    (c : Content)
    {x : Index}
    (hx : ∀ d ∈ x.records, d.owner ≠ c.owner) :
    save Index.access (s.contentRecords c) x =
      (.ok (Index.stored x.last (s.contentRecords c)), x.createAll (s.contentRecords c)) := by
  have hnew : ∀ r ∈ s.contentRecords c, x.records.any (·.sameOccurrence r) = false := by
    intro r hr
    obtain ⟨field, language, url, -, rfl⟩ := mem_contentRecords.1 hr
    rw [List.any_eq_false]
    intro d hd hsame
    exact hx d hd ((LinkRecord.sameOccurrence_iff _ _).1 hsame).2.1
  rw [save_access, missing_eq_self hnew (s.pairwise_contentRecords c)]

/--
The records of content are those of the links of its fields: of the fields whose configuration asks
for a search, in the languages that some field has an entry for.  No occurrence is there twice.  The
records are new and have not been checked, and their links can be tracked.  An index that has no
record of the owner stores all of them in their order.
-/
theorem contentRecords_exactly_once
    (s : Service)
    (c : Content) :
    (∀ r, r ∈ s.contentRecords c ↔
      ∃ field language url,
        (∃ config, c.configs.find? field = some config ∧ config.scan = true) ∧
        (∃ other byLanguage values,
          c.fields.find? other = some byLanguage ∧ byLanguage.find? language = some values) ∧
        url ∈ s.fieldLinks c field language ∧
        r = ⟨none, url, c.owner, field, language, none, 0, none⟩) ∧
      (s.contentRecords c).Pairwise (fun a b => a.sameOccurrence b = false) ∧
      (∀ r ∈ s.contentRecords c, s.classifier.Trackable r.url) ∧
      ∀ x : Index,
        (∀ d ∈ x.records, d.owner ≠ c.owner) →
        let new := Index.withNumbers x.last (s.contentRecords c)
        save Index.access (s.contentRecords c) x =
          (.ok (new.map (·.2)), ⟨x.entries ++ new, x.last + (s.contentRecords c).length⟩) := by
  refine ⟨fun r => ?_, s.pairwise_contentRecords c, fun r hr => ?_, fun x hx => ?_⟩
  · rw [mem_contentRecords]
    constructor
    · rintro ⟨field, language, url, hurl, rfl⟩
      have hscanned := ContentView.isScanned_iff.1 (isScanned_of_mem_fieldLinks hurl)
      have hlanguage := mem_languages_of_values (values_ne_nil_of_mem_fieldLinks hurl)
      exact ⟨field, language, url, hscanned, Content.mem_languages_iff.1 hlanguage, hurl, rfl⟩
    · rintro ⟨field, language, url, -, -, hurl, rfl⟩
      exact ⟨field, language, url, hurl, rfl⟩
  · obtain ⟨field, language, url, hurl, rfl⟩ := mem_contentRecords.1 hr
    obtain ⟨references, -, hlink⟩ := mem_fieldLinks.1 hurl
    exact Classifier.trackable_of_mem_links hlink
  · rw [s.save_contentRecords c hx, Index.stored_eq_withNumbers, Index.createAll_eq]

/-- A link under two spellings, a language that only a field without a search has, a field that only
has a configuration, and an index with the same link of another owner. -/
theorem contentRecords_exactly_once_shared_link :
    let s : Service :=
      ⟨{ Settings.standard with sitePath := "[::1]" },
        Registry.none.insert Registry.linkName linkField⟩
    let c : Content :=
      (((((Content.ofOwner ⟨"node", "1"⟩).withConfig "see" (.scanned Registry.linkName)).withConfig
        "more" (.scanned Registry.linkName)).withField
        "see" "en" ["/a", "http://[::1]/a", "mailto:a"]).withField
        "see" "de" ["/b"]).withField "notes" "fr" ["/c"]
    let x := (Index.empty.create (.ofOccurrence "http://[::1]/a" ⟨"node", "2"⟩ "see" "en")).2
    (∀ d ∈ x.records, d.owner ≠ c.owner) ∧
      ∃ y, save Index.access (s.contentRecords c) x =
        (.ok [⟨some 2, "http://[::1]/b", c.owner, "see", "de", none, 0, none⟩,
          ⟨some 3, "http://[::1]/a", c.owner, "see", "en", none, 0, none⟩], y) := by
  intro s c x
  have hother : ∀ d ∈ x.records, d.owner ≠ c.owner := by decide
  have hsave := (contentRecords_exactly_once s c).2.2.2 x hother
  have hnew : (Index.withNumbers x.last (s.contentRecords c)).map (·.2) =
      [⟨some 2, "http://[::1]/b", c.owner, "see", "de", none, 0, none⟩,
        ⟨some 3, "http://[::1]/a", c.owner, "see", "en", none, 0, none⟩] := by
    decide +kernel
  exact ⟨hother, _, hsave.trans (by rw [hnew])⟩

end Service
end LinkLedger
