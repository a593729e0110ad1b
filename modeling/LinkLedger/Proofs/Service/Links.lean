import LinkLedger.Proofs.Extract.FirstOccurrences
import LinkLedger.Proofs.Service.Occurrences
import LinkLedger.Proofs.Text.Utf8

/-!
# The links of references

Tracked links may be given to the service again: each is judged as it was the first time, against
every base, so filtering them a second time gives the same list.  Their octets are read as what they
spell, and none of them occurs twice.

**Results.**
* `readable_octets`: nothing is lost between texts and their octets.
* `Classifier.links_links`: the tracked links among tracked links are all of them.
* `kept_links_fixed`: the same for single judgements and for the links of octets.
-/

namespace LinkLedger

open Link Text

namespace Classifier

/-- Links that are judged to be themselves and tracked all stay. -/
theorem links_of_fixed
    {c : Classifier}
    {urls : List String}
    {base : String}
    (hnodup : urls.Nodup)
    (hfixed : ∀ url ∈ urls, (c.classify url base).kept = true ∧ (c.classify url base).url = url) :
    c.links urls base = urls := by
  have hkept : (urls.map fun raw => c.classify raw base).filter (·.kept) =
      urls.map fun raw => c.classify raw base := by
    rw [List.filter_eq_self]
    intro judgement hmem
    obtain ⟨url, hurl, rfl⟩ := List.mem_map.1 hmem
    exact (hfixed url hurl).1
  have hurls : (urls.map fun raw => c.classify raw base).map (·.url) = urls := by
    rw [List.map_map]
    exact (List.map_congr_left fun url hurl => (hfixed url hurl).2).trans (List.map_id urls)
  rw [links, hkept, hurls, unique_of_nodup hnodup]

/-- The tracked links among tracked links are all of them, against every base. -/
theorem links_links
    {c : Classifier}
    {base : String}
    (hsite : IsWebSite c.site.toList)
    (hbase : NoControls base.toList)
    (references : List String)
    (base' : String) :
    c.links (c.links references base) base' = c.links references base := by
  refine links_of_fixed (nodup_unique _) fun url hurl => ?_
  obtain ⟨raw, -, hkept, rfl⟩ := mem_links.1 hurl
  rw [classify_url hsite hbase hkept base']
  exact ⟨hkept, rfl⟩

end Classifier

namespace Service

/-- Texts are read back from their octets. -/
@[simp] theorem readable_octets
    (texts : List String) :
    readable (texts.map octets) = texts := by
  induction texts with
  | nil => rfl
  | cons text texts ih =>
      rw [readable] at ih ⊢
      rw [List.map_cons, List.filterMap_cons, decodeOctets_octets, ih]
      show String.ofList text.toList :: texts = text :: texts
      rw [String.ofList_toList]

/--
A tracked link is judged as the reference that it came from, against every base, and the links of
references are the links of those links: if the site is one of the web, and neither it nor the first
base has control characters.
-/
theorem kept_links_fixed
    (c : Classifier)
    (hsite : IsWebSite c.site.toList)
    (hcontrols : NoControls c.site.toList) :
    (∀ raw base base',
      NoControls base.toList →
      (c.classify raw base).kept = true →
      c.classify (c.classify raw base).url base' = c.classify raw base) ∧
    (∀ (s : Service) (references : List (List UInt8)) (base base' : Option String),
      s.classifier = c →
      (∀ path ∈ base, NoControls path.toList) →
      s.getLinks ((s.getLinks references base).map octets) base' =
        s.getLinks references base) := by
  constructor
  · intro raw base base' hbase hkept
    exact Classifier.classify_url hsite hbase hkept base'
  · rintro s references base base' rfl hbase
    have hagainst : NoControls (base.getD s.classifier.site).toList := by
      cases base with
      | none => exact hcontrols
      | some path => exact hbase path rfl
    rw [getLinks, getLinks, readable_octets]
    exact Classifier.links_links hsite hagainst (readable references) _

/-- Links that climb, leave out the scheme or end in a dot, and one that is not of the web. -/
theorem kept_links_fixed_climbing :
    let s : Service := ⟨{ Settings.standard with sitePath := "[::1]/shop" }, .standard⟩
    let raw := [" ../a b?q=.. ", "//[::1]/shop/x/a b?q=..", "/é#.", "mailto:a"].map octets
    s.getLinks raw (some "/x/y/z") =
        ["http://[::1]/shop/x/a b?q=..", "//[::1]/shop/x/a b?q=..", "http://[::1]/shop/é#."] ∧
      s.getLinks ((s.getLinks raw (some "/x/y/z")).map octets) (some "\t//../.") =
        s.getLinks raw (some "/x/y/z") := by
  intro s raw
  have hfixed := kept_links_fixed s.classifier (Or.inl (by decide +kernel)) (by decide +kernel)
  refine ⟨by decide +kernel, hfixed.2 s raw (some "/x/y/z") (some "\t//../.") rfl ?_⟩
  rintro path hpath
  cases hpath
  decide +kernel

end Service
end LinkLedger
