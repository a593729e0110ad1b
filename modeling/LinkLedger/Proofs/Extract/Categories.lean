import LinkLedger.Extract.Markup
import LinkLedger.Proofs.Extract.FirstOccurrences

/-!
# Categories of elements

Categories are switched on and off one by one.  Each reads certain attributes of its own elements,
its heads, and some read attributes of certain elements below these, the parts of the heads.

**Results.**
* `categories_eq`: the categories are those of the names, as the rows of a table say.
* `mem_linksInTree_iff`: the links of a tree are those of the categories that are on.
* `html_eq`: a text of blanks only has no elements, so it is like every other text.
-/

namespace LinkLedger

/-- The names of the categories. -/
inductive CategoryName where
  | anchors
  | audio
  | embeds
  | frames
  | images
  | objects
  | videos
  deriving DecidableEq, Repr

/-- All names, in the order in which the categories are collected. -/
def CategoryName.all : List CategoryName :=
  [.anchors, .audio, .embeds, .frames, .images, .objects, .videos]

theorem CategoryName.mem_all
    (k : CategoryName) :
    k ∈ all := by
  cases k <;> decide

namespace Categories

/-- Whether a category is on. -/
def has (on : Categories) : CategoryName → Bool
  | .anchors => on.anchors
  | .audio => on.audio
  | .embeds => on.embeds
  | .frames => on.frames
  | .images => on.images
  | .objects => on.objects
  | .videos => on.videos

/-- One category. -/
def only (k : CategoryName) : Categories :=
  ⟨k = .anchors, k = .audio, k = .embeds, k = .frames, k = .images, k = .objects, k = .videos⟩

/-- All categories that are on except one. -/
def without (on : Categories) (k : CategoryName) : Categories :=
  ⟨on.anchors && k ≠ .anchors, on.audio && k ≠ .audio, on.embeds && k ≠ .embeds,
    on.frames && k ≠ .frames, on.images && k ≠ .images, on.objects && k ≠ .objects,
    on.videos && k ≠ .videos⟩

@[simp] theorem has_only
    (k l : CategoryName) :
    (only k).has l = decide (k = l) := by
  cases l <;> rfl

@[simp] theorem has_without
    (on : Categories)
    (k l : CategoryName) :
    (on.without k).has l = (on.has l && k ≠ l) := by
  cases l <;> rfl

/-- Among all categories the one that is on alone. -/
@[simp] theorem filter_has_only
    (k : CategoryName) :
    CategoryName.all.filter (only k).has = [k] := by
  cases k <;> rfl

end Categories

namespace Extract

open Html Text

/-! ## The table of categories -/

/-- What a category reads: attributes of its heads, and of the parts below them. -/
structure Row where
  heads : List String
  attributes : List String
  isPart : Element → Bool
  partAttributes : List String

/-- The row of a category. -/
def row : CategoryName → Row
  | .anchors => ⟨["a", "area"], ["href"], fun _ => false, []⟩
  | .audio => ⟨["audio"], ["src"], fun d => ["source", "track"].contains d.name, ["src"]⟩
  | .embeds => ⟨["embed"], ["src", "pluginurl", "pluginspage"], fun _ => false, []⟩
  | .frames => ⟨["iframe"], ["src"], fun _ => false, []⟩
  | .images => ⟨["img"], ["src", "longdesc"], fun _ => false, []⟩
  | .objects =>
      ⟨["object"], ["data", "codebase"], fun d => d.name == "param" && carriesLink d, ["value"]⟩
  | .videos =>
      ⟨["video"], ["poster", "src"], fun d => ["source", "track"].contains d.name, ["src"]⟩

namespace Row

/-- Whether an element is one of the category's own. -/
def isHead (r : Row) (e : Element) : Bool := r.heads.contains e.name

/-- The links of a head and of its parts. -/
def links (r : Row) (e : Element) : List String :=
  linksOf e r.attributes ++
    (e.descendants.filter r.isPart).flatMap fun d => linksOf d r.partAttributes

/-- A category by its row. -/
def category (r : Row) (k : CategoryName) : Category := ⟨(·.has k), r.heads, r.links⟩

theorem links_of_no_parts
    {r : Row}
    (h : ∀ d, r.isPart d = false)
    (e : Element) :
    r.links e = linksOf e r.attributes := by
  have hnone : e.descendants.filter r.isPart = [] := List.filter_eq_nil_iff.2 (by simp [h])
  rw [links, hnone, List.flatMap_nil, List.append_nil]

end Row

theorem categories_eq :
    categories = CategoryName.all.map fun k => (row k).category k := by
  have hplain : ∀ names attributes,
      (⟨names, attributes, fun _ => false, []⟩ : Row).links = fun e => linksOf e attributes :=
    fun _ _ => funext fun e => Row.links_of_no_parts (fun _ => rfl) e
  simp only [CategoryName.all, List.map_cons, List.map_nil, Row.category, row, hplain]
  rfl

/-! ## The links of a tree -/

theorem linksInTree_eq
    (on : Categories)
    (root : Element) :
    linksInTree on root =
      unique ((CategoryName.all.filter on.has).flatMap fun k =>
        ((elementsOf root).filter (row k).isHead).flatMap (row k).links) := by
  rw [linksInTree, categories_eq, List.filter_map, List.flatMap_map]
  rfl

theorem mem_linksOf_iff
    {e : Element}
    {attributes : List String}
    {link : String} :
    link ∈ linksOf e attributes ↔ ∃ a ∈ attributes, linkOf e a = some link :=
  List.mem_filterMap

theorem mem_elementsOf_iff
    {root e : Element} :
    e ∈ elementsOf root ↔ e ∈ root.descendants :=
  List.mem_mergeSort

/-- The links of a tree are those of the heads of all categories that are on. -/
theorem mem_linksInTree_iff
    {on : Categories}
    {root : Element}
    {link : String} :
    link ∈ linksInTree on root ↔
      ∃ k, on.has k = true ∧
        ∃ e ∈ root.descendants, (row k).isHead e = true ∧ link ∈ (row k).links e := by
  simp only [linksInTree_eq, mem_unique, List.mem_flatMap, List.mem_filter, mem_elementsOf_iff,
    CategoryName.mem_all, true_and, and_assoc]

/-- The links of all categories that are on, category by category. -/
theorem linksInTree_eq_flatMap_only
    (on : Categories)
    (root : Element) :
    linksInTree on root =
      unique ((CategoryName.all.filter on.has).flatMap fun k => linksInTree (.only k) root) := by
  rw [linksInTree_eq]
  refine unique_flatMap_congr fun k _ => ?_
  rw [linksInTree_eq, Categories.filter_has_only, List.flatMap_singleton, unique_unique]

/-! ## Texts without elements -/

/-- A character that starts neither a tag nor a reference. -/
def IsPlain (c : Char) : Prop := c ≠ '<' ∧ c ≠ '&'

theorem isPlain_of_isBlank
    {c : Char}
    (h : isBlank c = true) :
    IsPlain c := by
  constructor
  · rintro rfl
    cases h
  · rintro rfl
    cases h

theorem nextTokens_of_isPlain
    {c : Char}
    (hc : IsPlain c)
    (cs : List Char) :
    nextTokens .markup false (c :: cs) = ([.char c], cs) := by
  obtain ⟨htag, hreference⟩ := hc
  simp [nextTokens, htag]

/-- Characters alone do not change an empty tree. -/
theorem take_char
    (c : Char) :
    Builder.start.take (.char c) = Builder.start := by
  by_cases hnull : c.toNat = 0
  · simp [Builder.take, Builder.start, Builder.settle, Builder.isForeign, Builder.step,
      Builder.inBody, hnull]
  · simp [Builder.take, Builder.start, Builder.settle, Builder.isForeign, Builder.step,
      Builder.inBody, hnull, Builder.reconstruct]

theorem read_of_isPlain
    {cs : List Char}
    (h : ∀ c ∈ cs, IsPlain c)
    (fuel : Nat) :
    Builder.start.read fuel cs = Builder.start := by
  induction fuel generalizing cs with
  | zero => rfl
  | succ fuel ih =>
      cases cs with
      | nil => rfl
      | cons c cs =>
          have hstep : Builder.start.read (fuel + 1) (c :: cs) =
              (((nextTokens .markup false (c :: cs)).1.foldl Builder.take Builder.start).read fuel
                (nextTokens .markup false (c :: cs)).2) := rfl
          rw [hstep, nextTokens_of_isPlain (h c List.mem_cons_self), List.foldl_cons,
            List.foldl_nil, take_char, ih fun d hd => h d (List.mem_cons_of_mem c hd)]

theorem mem_normalizeLines
    {cs : List Char}
    {d : Char}
    (h : d ∈ normalizeLines cs) :
    d = '\n' ∨ d ∈ cs := by
  fun_induction normalizeLines cs with
  | case1 => cases h
  | case2 rest ih =>
      rcases List.mem_cons.1 h with rfl | h
      · exact Or.inl rfl
      · exact (ih h).imp_right fun h => by simp [h]
  | case3 c rest _ ih =>
      rcases List.mem_cons.1 h with rfl | h
      · split
        · exact Or.inl rfl
        · exact Or.inr List.mem_cons_self
      · exact (ih h).imp_right (List.mem_cons_of_mem c)

theorem fragment_of_isPlain
    {text : List Char}
    (h : ∀ c ∈ text, IsPlain c) :
    fragment text = .node 0 .html "html" [] [] := by
  have hinput : ∀ c ∈ inputOf text, IsPlain c := by
    intro c hc
    rcases mem_normalizeLines hc with rfl | hc
    · exact ⟨by decide, by decide⟩
    · split at hc
      · exact h c (List.mem_of_mem_drop hc)
      · exact h c hc
  rw [fragment, read_of_isPlain hinput]
  rfl

/-- A text of blanks has no elements and no links, like its tree. -/
theorem html_eq
    (on : Categories)
    (text : String) :
    html on text = linksInTree on (fragment text.toList) := by
  rw [html, htmlBy]
  split
  · next hblank =>
    have hplain : ∀ c ∈ text.toList, IsPlain c :=
      fun c hc => isPlain_of_isBlank (List.all_eq_true.1 hblank c hc)
    rw [fragment_of_isPlain hplain, eq_comm, List.eq_nil_iff_forall_not_mem]
    intro link hlink
    obtain ⟨k, -, e, he, -⟩ := mem_linksInTree_iff.1 hlink
    simp [Element.descendants, Element.children] at he
  · rfl

end Extract
end LinkLedger
