import LinkLedger.Proofs.Service.Filtering
import LinkLedger.Proofs.Service.Links

/-!
# The links of a field

Repetitions are dropped at three places: by an extractor within a value, among what is found in all
values of a field, and among the absolute forms of what is tracked.  The last of these alone decides
which links a field has and in which order.

**Results.**
* `Classifier.links_congr`: what is found may have lost repetitions or not.
* `Classifier.links_append`: references together give what the first give and what the others add.
* `fieldLinks_of_scanned`: the links of a field come from all that is found in its values.
* `fieldLinks_fused`: the three places are as good as one.
-/

namespace LinkLedger

open Extract Text

namespace Classifier

variable {c : Classifier} {references references' : List String}

theorem links_unique
    (c : Classifier)
    (references : List String)
    (base : String) :
    c.links (unique references) base = c.links references base := by
  rw [links_eq_unique, links_eq_unique, unique_filterMap_unique]

/-- Only the first occurrences of references matter. -/
theorem links_congr
    (h : unique references = unique references')
    (base : String) :
    c.links references base = c.links references' base := by
  rw [← links_unique, h, links_unique]

/-- References together give the links of the first and those that the others add to them. -/
theorem links_append
    (c : Classifier)
    (references references' : List String)
    (base : String) :
    c.links (references ++ references') base =
      c.links references base ++
        (c.links references' base).filter fun url => !(c.links references base).contains url := by
  simp only [links_eq_unique, List.filterMap_append, unique_append]

end Classifier

/-- Content with other values of a field in one language. -/
def ContentView.putValues (c : ContentView) (field language : String) (values : List String) :
    ContentView :=
  { c with values := fun f l => if f = field ∧ l = language then values else c.values f l }

@[simp] theorem ContentView.values_putValues
    (c : ContentView)
    (field language : String)
    (values : List String) :
    (c.putValues field language values).values field language = values :=
  if_pos ⟨rfl, rfl⟩

namespace Service

variable {s : Service} {c : ContentView} {field name : String} {extractor : Extractor}

theorem getLinks_octets
    (s : Service)
    (references : List String)
    (base : String) :
    s.getLinks (references.map octets) (some base) = s.classifier.links references base := by
  rw [getLinks, readable_octets, Option.getD_some]

/-- The links of a field are those of all that its extractor finds, value by value. -/
theorem fieldLinks_of_scanned
    (hconfig : c.config? field = some (.scanned name))
    (hextractor : s.registry.find? name = some extractor)
    (language : String) :
    s.fieldLinks c field language =
      s.classifier.links ((c.values field language).flatMap (extractor s.settings.categories))
        (s.baseOf c) := by
  have hreferences : s.references? c field language =
      some (unique ((c.values field language).flatMap (extractor s.settings.categories))) := by
    rw [references?, hconfig]
    simp only [FieldConfig.scanned, Registry.extract, hextractor, if_true]
  rw [fieldLinks, hreferences]
  exact s.classifier.links_unique _ _

/--
The links of a field that is searched are those of all that its extractor finds in its values, one
value after the other, and no link is there twice.  It makes no difference whether the extractor or
the field drops repetitions.  The links of some values and more values are those of the first and
behind them those that the others add.
-/
theorem fieldLinks_fused
    (hconfig : c.config? field = some (.scanned name))
    (hextractor : s.registry.find? name = some extractor)
    (language : String) :
    s.fieldLinks c field language =
        s.getLinks
          (((c.values field language).flatMap (extractor s.settings.categories)).map octets)
          (some (s.baseOf c)) ∧
      (∀ finds : String → List String,
        (∀ value ∈ c.values field language,
          unique (finds value) = unique (extractor s.settings.categories value)) →
        s.fieldLinks c field language =
          s.getLinks (((c.values field language).flatMap finds).map octets)
            (some (s.baseOf c))) ∧
      (s.fieldLinks c field language).Nodup ∧
      ∀ values more,
        c.values field language = values ++ more →
        let linksOf := fun vs => s.fieldLinks (c.putValues field language vs) field language
        s.fieldLinks c field language =
          linksOf values ++ (linksOf more).filter fun url => !(linksOf values).contains url := by
  have hlinks := fieldLinks_of_scanned hconfig hextractor language
  refine ⟨?_, ?_, ?_, ?_⟩
  · rw [hlinks, getLinks_octets]
  · intro finds hfinds
    have hsame := unique_flatMap_congr hfinds
    rw [hlinks, getLinks_octets, Classifier.links_congr hsame]
  · rw [hlinks]
    exact nodup_unique _
  · intro values more hvalues linksOf
    have hpart : ∀ vs, linksOf vs = s.classifier.links
        (vs.flatMap (extractor s.settings.categories)) (s.baseOf c) := by
      intro vs
      have hvs := fieldLinks_of_scanned (c := c.putValues field language vs) hconfig hextractor
        language
      rwa [ContentView.values_putValues] at hvs
    rw [hlinks, hvalues, hpart, hpart, List.flatMap_append, Classifier.links_append]

/-- A link under two spellings in the values of a field, and an extractor that repeats itself. -/
theorem fieldLinks_fused_two_spellings :
    let s : Service :=
      ⟨{ Settings.standard with sitePath := "[::1]" },
        Registry.none.insert Registry.linkName linkField⟩
    let c : ContentView :=
      ((Content.ofOwner ⟨"node", "1"⟩).withConfig "see" (.scanned Registry.linkName)).withField
        "see" "en" ["/a", "/b", "http://[::1]/a", "/c"]
    let twice := fun value => linkField .standard value ++ linkField .standard value
    let linksOf := fun vs => s.fieldLinks (c.putValues "see" "en" vs) "see" "en"
    s.fieldLinks c "see" "en" = ["http://[::1]/a", "http://[::1]/b", "http://[::1]/c"] ∧
      s.fieldLinks c "see" "en" =
        s.getLinks (((c.values "see" "en").flatMap twice).map octets) (some (s.baseOf c)) ∧
      s.fieldLinks c "see" "en" =
        linksOf ["/a", "/b"] ++
          (linksOf ["http://[::1]/a", "/c"]).filter fun url =>
            !(linksOf ["/a", "/b"]).contains url := by
  intro s c twice linksOf
  have hextractor : s.registry.find? Registry.linkName = some linkField :=
    Table.find?_insert_self _ _ _
  have hconfig : c.config? "see" = some (.scanned Registry.linkName) :=
    Table.find?_insert_self _ _ _
  obtain ⟨hall, hfinds, -, hparts⟩ := fieldLinks_fused hconfig hextractor "en"
  have hvalues : c.values "see" "en" = ["/a", "/b"] ++ ["http://[::1]/a", "/c"] := by
    decide +kernel
  have hlinks : s.fieldLinks c "see" "en" =
      ["http://[::1]/a", "http://[::1]/b", "http://[::1]/c"] := by
    rw [hall]
    decide +kernel
  exact ⟨hlinks, hfinds twice (by decide +kernel), hparts _ _ hvalues⟩

end Service
end LinkLedger
