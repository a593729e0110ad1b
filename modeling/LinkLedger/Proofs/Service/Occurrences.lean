import LinkLedger.Proofs.Link.FixedPoint
import LinkLedger.Service.Basic

/-!
# Which links content has

A link belongs to a field in one language if it is the absolute form of a tracked reference there.
The records of content are the links of all its fields in all its languages: a field that gives
links has a configuration and values, so it is never passed over.

**Results.**
* `Classifier.mem_links`: the tracked links among references.
* `mem_contentRecords`: the records of content, whatever fields and languages it lists.
* `classify_of_mem_fieldLinks`: the links of content are judged again as they were.
-/

namespace LinkLedger

theorem Classifier.mem_links
    {c : Classifier}
    {references : List String}
    {base url : String} :
    url ∈ c.links references base ↔
      ∃ raw ∈ references, (c.classify raw base).kept = true ∧ (c.classify raw base).url = url := by
  rw [Classifier.links, mem_unique]
  constructor
  · intro h
    obtain ⟨judgement, hj, hurl⟩ := List.mem_map.1 h
    obtain ⟨hmem, hkept⟩ := List.mem_filter.1 hj
    obtain ⟨raw, hraw, rfl⟩ := List.mem_map.1 hmem
    exact ⟨raw, hraw, hkept, hurl⟩
  · rintro ⟨raw, hraw, hkept, hurl⟩
    exact List.mem_map.2
      ⟨_, List.mem_filter.2 ⟨List.mem_map.2 ⟨raw, hraw, rfl⟩, hkept⟩, hurl⟩

namespace Service

/-! ## The links of a field -/

theorem mem_fieldLinks
    {s : Service}
    {c : ContentView}
    {field language url : String} :
    url ∈ s.fieldLinks c field language ↔
      ∃ references, s.references? c field language = some references ∧
        url ∈ s.classifier.links references (s.baseOf c) := by
  rw [fieldLinks]
  cases h : s.references? c field language with
  | none => simp
  | some references => simp

/-- A field has references exactly if it is searched. -/
theorem isSome_references?
    (s : Service)
    (c : ContentView)
    (field language : String) :
    (s.references? c field language).isSome = c.isScanned field := by
  unfold references? ContentView.isScanned
  cases c.config? field with
  | none => rfl
  | some config => cases hscan : config.scan <;> simp [hscan]

theorem isScanned_of_mem_fieldLinks
    {s : Service}
    {c : ContentView}
    {field language url : String}
    (h : url ∈ s.fieldLinks c field language) :
    c.isScanned field = true := by
  obtain ⟨references, href, -⟩ := mem_fieldLinks.1 h
  rw [← s.isSome_references? c field language, href]
  rfl

/-- No references come from a field without values. -/
theorem values_ne_nil_of_mem_fieldLinks
    {s : Service}
    {c : ContentView}
    {field language url : String}
    (h : url ∈ s.fieldLinks c field language) :
    c.values field language ≠ [] := by
  intro hvalues
  obtain ⟨references, href, hurl⟩ := mem_fieldLinks.1 h
  obtain ⟨raw, hraw, -⟩ := Classifier.mem_links.1 hurl
  unfold references? at href
  split at href
  · next config _ =>
    split at href
    · rw [← Option.some.inj href, hvalues, Extract.Registry.extract] at hraw
      split at hraw
      · simp at hraw
      · cases hraw
    · cases href
  · cases href

/-! ## The records of content -/

theorem mem_fieldNames_of_isScanned
    {c : Content}
    {field : String}
    (h : c.view.isScanned field = true) :
    field ∈ c.fieldNames := by
  have hconfig : field ∈ c.configs.names := by
    unfold ContentView.isScanned at h
    cases hfind : c.view.config? field with
    | none =>
        rw [hfind] at h
        cases h
    | some config => exact Table.mem_names_of_find? hfind
  rw [Content.fieldNames, List.mem_append]
  by_cases hfield : field ∈ c.fields.names
  · exact Or.inl hfield
  · exact Or.inr (List.mem_filter.2 ⟨hconfig, by simpa using hfield⟩)

theorem mem_languages_of_values
    {c : Content}
    {field language : String}
    (h : c.values field language ≠ []) :
    language ∈ c.languages := by
  rw [Content.languages, Table.mem_names_ofList]
  unfold Content.values at h
  cases hfield : c.fields.find? field with
  | none =>
      rw [hfield] at h
      exact absurd rfl h
  | some byLanguage =>
      cases hlanguage : byLanguage.find? language with
      | none =>
          rw [hfield, Option.bind_some, hlanguage] at h
          exact absurd rfl h
      | some texts =>
          refine List.mem_map.2 ⟨(language, ()), List.mem_map.2 ⟨language, ?_, rfl⟩, rfl⟩
          exact List.mem_flatMap.2 ⟨(field, byLanguage), Table.mem_entries_of_find? hfield,
            Table.mem_names_of_find? hlanguage⟩

/-- The records of content are those of the links of its fields. -/
theorem mem_contentRecords
    {s : Service}
    {c : Content}
    {r : LinkRecord} :
    r ∈ s.contentRecords c ↔
      ∃ field language url, url ∈ s.fieldLinks c field language ∧
        r = .ofOccurrence url c.owner field language := by
  rw [contentRecords, List.mem_flatMap]
  constructor
  · rintro ⟨field, -, hr⟩
    obtain ⟨language, -, hr⟩ := List.mem_flatMap.1 hr
    obtain ⟨url, hurl, heq⟩ := List.mem_map.1 hr
    exact ⟨field, language, url, hurl, heq.symm⟩
  · rintro ⟨field, language, url, hurl, rfl⟩
    have hscanned := isScanned_of_mem_fieldLinks hurl
    refine ⟨field, List.mem_filter.2 ⟨mem_fieldNames_of_isScanned hscanned, hscanned⟩, ?_⟩
    exact List.mem_flatMap.2 ⟨language,
      mem_languages_of_values (values_ne_nil_of_mem_fieldLinks hurl),
      List.mem_map.2 ⟨url, hurl, rfl⟩⟩

/-! ## Judging the links of content again -/

/-- The addresses that links are resolved against are those of the web, and they can be read. -/
structure PlainAddresses (s : Service) (c : ContentView) : Prop where
  web : Link.IsWebSite s.settings.siteUrl.toList
  site : Text.NoControls s.settings.siteUrl.toList
  base : ∀ path, c.basePath = some path → Text.NoControls path.toList

theorem PlainAddresses.noControls_baseOf
    {s : Service}
    {c : ContentView}
    (h : PlainAddresses s c) :
    Text.NoControls (s.baseOf c).toList := by
  unfold baseOf
  cases hpath : c.basePath with
  | none => exact h.site
  | some path => exact h.base path hpath

/-- A link of content is tracked, and it is its own absolute form. -/
theorem classify_of_mem_fieldLinks
    {s : Service}
    {c : ContentView}
    (haddress : PlainAddresses s c)
    {field language url : String}
    (h : url ∈ s.fieldLinks c field language) :
    (s.classifier.classify url (s.baseOf c)).kept = true ∧
      (s.classifier.classify url (s.baseOf c)).url = url := by
  obtain ⟨references, -, hurl⟩ := mem_fieldLinks.1 h
  obtain ⟨raw, -, hkept, rfl⟩ := Classifier.mem_links.1 hurl
  have hsite : Link.IsWebSite s.classifier.site.toList := haddress.web
  have hagain := Classifier.classify_url hsite haddress.noControls_baseOf hkept (s.baseOf c)
  rw [hagain]
  exact ⟨hkept, rfl⟩

end Service
end LinkLedger
