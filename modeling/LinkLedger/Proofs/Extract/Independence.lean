import LinkLedger.Extract.Registry
import LinkLedger.Proofs.Extract.Attributes

/-!
# Values and categories for themselves

A text of HTML is searched for all categories that are on.  A text of Markdown gives its addresses,
which two of the categories switch on, and its HTML, which is searched as one text.  Repetitions are
dropped in a tree, in a text, and in the values of a field.  None of this makes a link of one value
and one category depend on the others: what is found is what is found for each of them alone.

The laws hold for whatever reads the tree of a text of HTML and the pieces of a text of Markdown.

**Results.**
* `Extractor.Separable`: each category finds its links by itself, and none of them is blank.
* `separable_htmlBy`, `separable_markdownBy`: so it is in markup.
* `Registry.extract_union`: then also in the values of a field.
-/

namespace LinkLedger
namespace Extract

open Html Markdown Text

/-- Each category finds its links by itself, and no link is blank. -/
structure Extractor.Separable (f : Extractor) : Prop where
  mem_iff_only : ∀ (on : Categories) {text link : String},
    link ∈ f on text ↔ ∃ k, on.has k = true ∧ link ∈ f (.only k) text
  not_blank : ∀ {on : Categories} {text link : String},
    link ∈ f on text → isBlankText link.toList = false

variable {tree : List Char → Element}
variable {split : List Char → List Piece}
variable {on : Categories}
variable {text link : String}

/-! ## HTML -/

theorem mem_linksInTree_iff_only
    (on : Categories)
    {root : Element} :
    link ∈ linksInTree on root ↔ ∃ k, on.has k = true ∧ link ∈ linksInTree (.only k) root := by
  rw [linksInTree_eq_flatMap_only, mem_unique]
  simp only [List.mem_flatMap, List.mem_filter, CategoryName.mem_all, true_and]

theorem isBlankText_of_isValue
    {e : Element}
    {name : String}
    (h : IsValue e name link) :
    isBlankText link.toList = false := by
  obtain ⟨value, -, rfl, hne⟩ := h
  rw [Bool.eq_false_iff, Ne, isBlankText_iff, toList_trimmed, trim_trim, ← toList_trimmed]
  exact fun hnil => hne (String.toList_eq_nil_iff.1 hnil)

theorem isBlankText_of_mem_linksInTree
    {root : Element}
    (h : link ∈ linksInTree on root) :
    isBlankText link.toList = false := by
  obtain ⟨p, -, hlink⟩ := mem_linksInTree_iff_linksAt.1 h
  obtain ⟨k, name, -, -, hvalue⟩ := mem_linksAt_iff.1 hlink
  exact isBlankText_of_isValue hvalue

theorem mem_htmlBy_iff :
    link ∈ htmlBy tree on text ↔
      isBlankText text.toList = false ∧ link ∈ linksInTree on (tree text.toList) := by
  rw [htmlBy]
  split
  · next hblank => simp [hblank]
  · next hblank => simp [hblank]

theorem separable_htmlBy
    (tree : List Char → Element) :
    Extractor.Separable (htmlBy tree) where
  mem_iff_only := by
    intro on text link
    simp only [mem_htmlBy_iff, mem_linksInTree_iff_only on]
    constructor
    · rintro ⟨htext, k, hk, hlink⟩
      exact ⟨k, hk, htext, hlink⟩
    · rintro ⟨k, hk, htext, hlink⟩
      exact ⟨htext, k, hk, hlink⟩
  not_blank := fun h => isBlankText_of_mem_linksInTree (mem_htmlBy_iff.1 h).2

/-! ## Markdown -/

theorem addressOf_eq_some_iff
    {p : Piece}
    {address : List Char} :
    addressOf on p = some address ↔
      (on.has .anchors = true ∧ p = .link address) ∨
        (on.has .images = true ∧ p = .image address) := by
  cases p with
  | link a => simp [addressOf, Categories.has]
  | image a => simp [addressOf, Categories.has]
  | markup m => simp [addressOf]

theorem addressOf_eq_some_iff_only
    {p : Piece}
    {address : List Char} :
    addressOf on p = some address ↔
      ∃ k, on.has k = true ∧ addressOf (.only k) p = some address := by
  constructor
  · intro h
    rcases addressOf_eq_some_iff.1 h with ⟨hon, hp⟩ | ⟨hon, hp⟩
    · exact ⟨.anchors, hon, addressOf_eq_some_iff.2 (Or.inl ⟨by simp, hp⟩)⟩
    · exact ⟨.images, hon, addressOf_eq_some_iff.2 (Or.inr ⟨by simp, hp⟩)⟩
  · rintro ⟨k, hon, h⟩
    rcases addressOf_eq_some_iff.1 h with ⟨hk, hp⟩ | ⟨hk, hp⟩
    · obtain rfl : k = .anchors := by simpa using hk
      exact addressOf_eq_some_iff.2 (Or.inl ⟨hon, hp⟩)
    · obtain rfl : k = .images := by simpa using hk
      exact addressOf_eq_some_iff.2 (Or.inr ⟨hon, hp⟩)

/-- The HTML in a text of Markdown. -/
def markupIn (split : List Char → List Piece) (text : String) : String :=
  String.ofList ((split text.toList).flatMap markupOf)

/-- A text of Markdown without HTML has no links of HTML either. -/
theorem mem_inMarkup_iff
    {markup : List Char} :
    link ∈ (if markup.isEmpty then [] else htmlBy tree on (String.ofList markup)) ↔
      link ∈ htmlBy tree on (String.ofList markup) := by
  cases markup with
  | nil => simp [mem_htmlBy_iff, isBlankText]
  | cons c cs => rfl

/-- The links of Markdown are its addresses and the links of its HTML. -/
theorem mem_markdownBy_iff :
    link ∈ markdownBy tree split on text ↔
      isBlankText link.toList = false ∧
        ((∃ p ∈ split text.toList, addressOf on p = some link.toList) ∨
          link ∈ htmlBy tree on (markupIn split text)) := by
  have haddresses : link ∈ ((split text.toList).filterMap (addressOf on)).map String.ofList ↔
      ∃ p ∈ split text.toList, addressOf on p = some link.toList := by
    simp only [List.mem_map, List.mem_filterMap]
    constructor
    · rintro ⟨address, ⟨p, hp, haddress⟩, rfl⟩
      exact ⟨p, hp, by rwa [String.toList_ofList]⟩
    · rintro ⟨p, hp, haddress⟩
      exact ⟨link.toList, ⟨p, hp, haddress⟩, String.ofList_toList⟩
  rw [markdownBy, mem_unique, List.mem_filter, List.mem_append, haddresses, mem_inMarkup_iff,
    ← markupIn, Bool.not_eq_true', and_comm]

theorem separable_markdownBy
    (tree : List Char → Element)
    (split : List Char → List Piece) :
    Extractor.Separable (markdownBy tree split) where
  mem_iff_only := by
    intro on text link
    constructor
    · intro h
      obtain ⟨hlink, ⟨p, hp, haddress⟩ | hmarkup⟩ := mem_markdownBy_iff.1 h
      · obtain ⟨k, hk, haddress⟩ := addressOf_eq_some_iff_only.1 haddress
        exact ⟨k, hk, mem_markdownBy_iff.2 ⟨hlink, Or.inl ⟨p, hp, haddress⟩⟩⟩
      · obtain ⟨k, hk, hmarkup⟩ := ((separable_htmlBy tree).mem_iff_only on).1 hmarkup
        exact ⟨k, hk, mem_markdownBy_iff.2 ⟨hlink, Or.inr hmarkup⟩⟩
    · rintro ⟨k, hk, h⟩
      obtain ⟨hlink, ⟨p, hp, haddress⟩ | hmarkup⟩ := mem_markdownBy_iff.1 h
      · have haddress' := addressOf_eq_some_iff_only.2 ⟨k, hk, haddress⟩
        exact mem_markdownBy_iff.2 ⟨hlink, Or.inl ⟨p, hp, haddress'⟩⟩
      · have hmarkup' := ((separable_htmlBy tree).mem_iff_only on).2 ⟨k, hk, hmarkup⟩
        exact mem_markdownBy_iff.2 ⟨hlink, Or.inr hmarkup'⟩
  not_blank := fun h => (mem_markdownBy_iff.1 h).1

/-! ## The values of a field -/

namespace Registry

variable {r : Registry} {name : String} {f : Extractor} {values : List String}

theorem mem_extract_iff
    (hfind : r.find? name = some f) :
    link ∈ r.extract name values on ↔ ∃ value ∈ values, link ∈ f on value := by
  rw [extract, hfind, mem_unique, List.mem_flatMap]

theorem nodup_extract
    (r : Registry)
    (name : String)
    (values : List String)
    (on : Categories) :
    (r.extract name values on).Nodup := by
  rw [extract]
  split
  · exact nodup_unique _
  · exact List.nodup_nil

/-- The links of a field are those of each value for each category. -/
theorem mem_extract_iff_only
    (hfind : r.find? name = some f)
    (hf : Extractor.Separable f)
    (on : Categories) :
    link ∈ r.extract name values on ↔
      ∃ value ∈ values, ∃ k, on.has k = true ∧ link ∈ r.extract name [value] (.only k) := by
  simp only [mem_extract_iff hfind, List.mem_singleton, exists_eq_left, hf.mem_iff_only on]

/-- Category by category, the values being searched together. -/
theorem mem_extract_iff_exists_category
    (hfind : r.find? name = some f)
    (hf : Extractor.Separable f)
    (on : Categories) :
    link ∈ r.extract name values on ↔
      ∃ k, on.has k = true ∧ link ∈ r.extract name values (.only k) := by
  simp only [mem_extract_iff hfind, hf.mem_iff_only on]
  constructor
  · rintro ⟨value, hvalue, k, hk, hlink⟩
    exact ⟨k, hk, value, hvalue, hlink⟩
  · rintro ⟨k, hk, value, hvalue, hlink⟩
    exact ⟨value, hvalue, k, hk, hlink⟩

/-- Without a category there is what the other ones that are on find. -/
theorem mem_extract_without_iff
    (hfind : r.find? name = some f)
    (hf : Extractor.Separable f)
    (k : CategoryName) :
    link ∈ r.extract name values (on.without k) ↔
      ∃ l, on.has l = true ∧ l ≠ k ∧ link ∈ r.extract name values (.only l) := by
  rw [mem_extract_iff_exists_category hfind hf]
  refine exists_congr fun l => ?_
  rw [Categories.has_without, Bool.and_eq_true, decide_eq_true_eq, and_assoc, ne_comm]

/--
What the extractor for HTML or the one for Markdown finds in values is what it finds in each value
for each category that is on, each link once and none blank.  So more categories do not lose a link,
a link is lost with a category if no other one that is on finds it, and what a value gives does not
depend on the others.
-/
theorem extract_union
    (tree : List Char → Element)
    (split : List Char → List Piece)
    (hfind : r.find? name = some f)
    (hmarkup : f = htmlBy tree ∨ f = markdownBy tree split)
    (values : List String)
    (on : Categories) :
    (∀ link, link ∈ r.extract name values on ↔
      ∃ value ∈ values, ∃ k, on.has k = true ∧ link ∈ r.extract name [value] (.only k)) ∧
    (∀ more : Categories, (∀ k, on.has k = true → more.has k = true) →
      ∀ link ∈ r.extract name values on, link ∈ r.extract name values more) ∧
    (∀ k, ∀ link ∈ r.extract name values on,
      link ∉ r.extract name values (on.without k) ↔
        ∀ l, on.has l = true → l ≠ k → link ∉ r.extract name values (.only l)) ∧
    (∀ link, link ∈ r.extract name values on ↔
      ∃ value ∈ values, link ∈ r.extract name [value] on) ∧
    (r.extract name values on).Nodup ∧
    ∀ link ∈ r.extract name values on, isBlankText link.toList = false := by
  have hf : Extractor.Separable f := by
    rcases hmarkup with rfl | rfl
    · exact separable_htmlBy tree
    · exact separable_markdownBy tree split
  refine ⟨?union, ?more, ?without, ?value, nodup_extract r name values on, ?blank⟩
  case union => exact fun link => mem_extract_iff_only hfind hf on
  case more =>
    intro more hmore link hlink
    obtain ⟨k, hk, hlink⟩ := (mem_extract_iff_exists_category hfind hf on).1 hlink
    exact (mem_extract_iff_exists_category hfind hf more).2 ⟨k, hmore k hk, hlink⟩
  case without =>
    intro k link _
    rw [mem_extract_without_iff hfind hf]
    push Not
    rfl
  case value =>
    intro link
    simp only [mem_extract_iff hfind, List.mem_singleton, exists_eq_left]
  case blank =>
    intro link hlink
    obtain ⟨value, -, hlink⟩ := (mem_extract_iff hfind).1 hlink
    exact hf.not_blank hlink

theorem find?_standard_htmlName :
    standard.find? htmlName = some html := by
  rw [standard, Table.ofList, List.foldl_cons, List.foldl_cons, List.foldl_cons, List.foldl_nil,
    Table.find?_insert_of_ne _ (by decide), Table.find?_insert_of_ne _ (by decide),
    Table.find?_insert_self]

theorem find?_standard_markdownName :
    standard.find? markdownName = some markdown := by
  rw [standard, Table.ofList, List.foldl_cons, List.foldl_cons, List.foldl_cons, List.foldl_nil,
    Table.find?_insert_self]

/-- An image in HTML and in the HTML of one of two texts of Markdown. -/
theorem extract_union_of_image :
    "c" ∈ standard.extract htmlName ["<img src=c>"] .all ∧
      "c" ∈ standard.extract markdownName ["![d](e)", "<img src=c>"] .all := by
  have hhtml := extract_union fragment pieces find?_standard_htmlName (Or.inl rfl)
    ["<img src=c>"] .all
  have hmarkdown := extract_union fragment pieces find?_standard_markdownName (Or.inr rfl)
    ["![d](e)", "<img src=c>"] .all
  refine ⟨(hhtml.1 "c").2 ⟨"<img src=c>", by simp, .images, rfl, ?_⟩,
    (hmarkdown.1 "c").2 ⟨"<img src=c>", by simp, .images, rfl, ?_⟩⟩
  · refine (mem_extract_iff find?_standard_htmlName).2 ⟨"<img src=c>", by simp, ?_⟩
    decide +kernel
  · refine (mem_extract_iff find?_standard_markdownName).2 ⟨"<img src=c>", by simp, ?_⟩
    decide +kernel

end Registry

end Extract
end LinkLedger
