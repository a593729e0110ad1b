import LinkLedger.Proofs.Extract.Attributes

/-!
# The order of links

The links of a tree come category by category.  Within a category they follow the document if the
elements came into being in its order and no head stands within another: the parts of a head come
right behind it, and those of an outer head in front of an inner head.

**Results.**
* `linksInTree_of_inOrder`: elements in order need no sorting.
* `flatMap_linksFor_walkOf`, `flatMap_linksFor_of_no_parts`: collecting heads and their parts is
  walking through the document.
* `linksInTree_order`: the order of the links of a tree.
* `linksInTree_out_of_order`: the links of two categories do not follow the document.
-/

namespace LinkLedger
namespace Extract

open Html Element

/-- The number of positions in front of the first one that has a link. -/
def firstPlace (on : Categories) (root : Element) (link : String) : Nat :=
  root.positions.findIdx fun p => (linksAt on p).contains link

/-- The number of heads of a category that came into being before the first one that a link belongs
to. -/
def firstHead (k : CategoryName) (root : Element) (link : String) : Nat :=
  ((elementsOf root).filter (row k).isHead).findIdx fun e => ((row k).links e).contains link

/-- Links in the order in which the document has them first. -/
def InDocumentOrder (on : Categories) (root : Element) (links : List String) : Prop :=
  links.Pairwise fun a b => firstPlace on root a ≤ firstPlace on root b

instance (on : Categories) (root : Element) (links : List String) :
    Decidable (InDocumentOrder on root links) :=
  inferInstanceAs (Decidable (List.Pairwise _ _))

/-- The elements below a root came into being in the order of the document. -/
def InOrder (root : Element) : Prop :=
  root.descendants.Pairwise fun d e => d.number < e.number

instance (root : Element) : Decidable (InOrder root) :=
  inferInstanceAs (Decidable (List.Pairwise _ _))

/-- No head stands within another one. -/
def Row.Flat (r : Row) (es : List Element) : Prop :=
  ∀ e ∈ listingOf es, r.isHead e = true → ∀ d ∈ e.descendants, r.isHead d = false

instance (r : Row) (es : List Element) : Decidable (r.Flat es) :=
  inferInstanceAs (Decidable (∀ e ∈ _, _ → ∀ d ∈ _, _))

/-! ## Elements in order -/

theorem elementsOf_of_inOrder
    {root : Element}
    (h : InOrder root) :
    elementsOf root = root.descendants :=
  List.mergeSort_of_pairwise (h.imp fun hlt => decide_eq_true (Nat.le_of_lt hlt))

/-- Elements in order need no sorting. -/
theorem linksInTree_of_inOrder
    {root : Element}
    (h : InOrder root)
    (on : Categories) :
    linksInTree on root =
      unique ((CategoryName.all.filter on.has).flatMap fun k =>
        (root.descendants.filter (row k).isHead).flatMap (row k).links) := by
  rw [linksInTree_eq, elementsOf_of_inOrder h]

/-! ## Heads and parts -/

theorem Row.Flat.of_cons
    {r : Row}
    {e : Element}
    {es : List Element}
    (h : r.Flat (e :: es)) :
    r.Flat e.children ∧ r.Flat es := by
  constructor
  · intro f hf
    exact h f (by simp [listing_eq, descendants, hf])
  · intro f hf
    exact h f (by simp [hf])

/-- A list of parts for those members that pass a test. -/
theorem flatMap_filter
    {α β : Type}
    (p : α → Bool)
    (f : α → List β)
    (as : List α) :
    (as.filter p).flatMap f = as.flatMap fun a => if p a then f a else [] := by
  induction as with
  | nil => rfl
  | cons a as ih =>
      by_cases hp : p a = true
      · rw [List.filter_cons_of_pos hp, List.flatMap_cons, List.flatMap_cons, ih, if_pos hp]
      · rw [List.filter_cons_of_neg hp, List.flatMap_cons, ih, if_neg hp, List.nil_append]

/-- Where what is read depends on the elements alone, walking is listing. -/
theorem flatMap_linksFor_eq
    {k : CategoryName}
    {around es : List Element}
    {f : Element → List String}
    (h : ∀ p ∈ walkOf around es, linksFor k p = f p.element) :
    (walkOf around es).flatMap (linksFor k) = (listingOf es).flatMap f := by
  rw [List.flatMap_congr h, ← map_element_walkOf around es, List.flatMap_map]

/-- Within a head nothing is read but its parts. -/
theorem flatMap_linksFor_within
    {k : CategoryName}
    {around es : List Element}
    (haround : ∃ f ∈ around, (row k).isHead f = true)
    (hflat : ∀ d ∈ listingOf es, (row k).isHead d = false) :
    (walkOf around es).flatMap (linksFor k) =
      ((listingOf es).filter (row k).isPart).flatMap fun d =>
        linksOf d (row k).partAttributes := by
  rw [flatMap_filter]
  refine flatMap_linksFor_eq fun p hp => ?_
  obtain ⟨inner, hinner, hlies⟩ := (mem_walkOf_iff around p es).1 hp
  have hhead : (row k).isHead p.element = false :=
    hflat _ (mem_listingOf_iff.2 ⟨inner, hlies⟩)
  have hwithin : p.around.any (row k).isHead = true := by
    obtain ⟨f, hf, hisHead⟩ := haround
    exact List.any_eq_true.2 ⟨f, hinner ▸ List.mem_append_right inner hf, hisHead⟩
  rw [linksFor, Row.attributesAt, hhead, if_neg Bool.false_ne_true, hwithin, Bool.and_true]
  split
  · rfl
  · rfl

/-- Without parts the links are those of the heads. -/
theorem flatMap_linksFor_of_no_parts
    {k : CategoryName}
    (hparts : ∀ d, (row k).isPart d = false)
    (around es : List Element) :
    (walkOf around es).flatMap (linksFor k) =
      ((listingOf es).filter (row k).isHead).flatMap (row k).links := by
  rw [flatMap_filter]
  refine flatMap_linksFor_eq fun p _ => ?_
  rw [linksFor, Row.attributesAt, hparts, Bool.false_and, if_neg Bool.false_ne_true,
    Row.links_of_no_parts hparts]
  split
  · rfl
  · rfl

mutual

/-- Outside of heads the links are those of the heads and of their parts. -/
theorem flatMap_linksFor_walk
    {k : CategoryName}
    {around : List Element}
    (haround : ∀ f ∈ around, (row k).isHead f = false) :
    ∀ e : Element, (row k).Flat [e] →
      (walk around e).flatMap (linksFor k) =
        ((listing e).filter (row k).isHead).flatMap (row k).links
  | node n v name attributes es, hflat => by
      rw [walk, listing, List.flatMap_cons]
      by_cases hhead : (row k).isHead (node n v name attributes es) = true
      · have hbelow : ∀ d ∈ listingOf es, (row k).isHead d = false :=
          hflat _ (by simp [listing]) hhead
        have hnone : (listingOf es).filter (row k).isHead = [] :=
          List.filter_eq_nil_iff.2 fun d hd => by simp [hbelow d hd]
        rw [List.filter_cons_of_pos hhead, hnone, List.flatMap_singleton, Row.links,
          flatMap_linksFor_within ⟨_, List.mem_cons_self, hhead⟩ hbelow, linksFor,
          Row.attributesAt, if_pos hhead]
        rfl
      · have hout : ∀ f ∈ node n v name attributes es :: around, (row k).isHead f = false := by
          intro f hf
          rcases List.mem_cons.1 hf with rfl | hf
          · exact Bool.eq_false_iff.2 hhead
          · exact haround f hf
        have hany : around.any (row k).isHead = false :=
          List.any_eq_false.2 fun f hf => by simp [haround f hf]
        rw [List.filter_cons_of_neg hhead, flatMap_linksFor_walkOf hout es hflat.of_cons.1,
          linksFor, Row.attributesAt, if_neg hhead, hany, Bool.and_false]
        rfl

theorem flatMap_linksFor_walkOf
    {k : CategoryName}
    {around : List Element}
    (haround : ∀ f ∈ around, (row k).isHead f = false) :
    ∀ es : List Element, (row k).Flat es →
      (walkOf around es).flatMap (linksFor k) =
        ((listingOf es).filter (row k).isHead).flatMap (row k).links
  | [], _ => by simp
  | e :: es, hflat => by
      have hfirst : (row k).Flat [e] := fun f hf => hflat f (by
        rw [listingOf_cons, listingOf_nil, List.append_nil] at hf
        simp [hf])
      rw [walkOf_cons, listingOf_cons, List.flatMap_append, List.filter_append,
        List.flatMap_append, flatMap_linksFor_walk haround e hfirst,
        flatMap_linksFor_walkOf haround es hflat.of_cons.2]

end

/-! ## The order of the links of a tree -/

theorem linksAt_only
    (k : CategoryName)
    (p : Position) :
    linksAt (.only k) p = linksFor k p := by
  rw [linksAt, Categories.filter_has_only, List.flatMap_singleton]

/-- Links that are found walking through the document are in its order. -/
theorem inDocumentOrder_unique
    (on : Categories)
    (root : Element) :
    InDocumentOrder on root (unique (root.positions.flatMap (linksAt on))) :=
  pairwise_unique_flatMap (linksAt on) root.positions

/-- The links of a category are in the order of the heads that they belong to first. -/
theorem pairwise_firstHead
    (k : CategoryName)
    (root : Element) :
    (linksInTree (.only k) root).Pairwise fun a b =>
      firstHead k root a ≤ firstHead k root b := by
  rw [linksInTree_eq, Categories.filter_has_only, List.flatMap_singleton]
  exact pairwise_unique_flatMap (row k).links _

/-- Collecting the heads of a category follows the document if they are in order and either have no
parts or do not stand within each other. -/
theorem linksInTree_only
    {k : CategoryName}
    {root : Element}
    (horder : InOrder root)
    (hk : (∀ d, (row k).isPart d = false) ∨ (row k).Flat root.children) :
    linksInTree (.only k) root = unique (root.positions.flatMap (linksAt (.only k))) := by
  have hwalk : root.positions.flatMap (linksFor k) =
      (root.descendants.filter (row k).isHead).flatMap (row k).links := by
    rcases hk with hparts | hflat
    · exact flatMap_linksFor_of_no_parts hparts [] root.children
    · exact flatMap_linksFor_walkOf (by simp) root.children hflat
  rw [linksInTree_of_inOrder horder, Categories.filter_has_only, List.flatMap_singleton, ← hwalk]
  exact congrArg unique (List.flatMap_congr fun p _ => (linksAt_only k p).symm)

/--
The links of a tree are those of the first category that is on, and behind them those that each
further one adds.  The links of one category come head by head, in the order in which these came
into being.  They are in the order of the document if all elements came into being in that order,
and if the category has no parts or no head of it stands within another.
-/
theorem linksInTree_order
    (on : Categories)
    (root : Element) :
    linksInTree on root =
        unique ((CategoryName.all.filter on.has).flatMap fun k => linksInTree (.only k) root) ∧
      (∀ k, (linksInTree (.only k) root).Pairwise fun a b =>
        firstHead k root a ≤ firstHead k root b) ∧
      (InOrder root →
        ∀ k, k ∈ [CategoryName.anchors, .embeds, .frames, .images] ∨ (row k).Flat root.children →
          InDocumentOrder (.only k) root (linksInTree (.only k) root)) := by
  refine ⟨linksInTree_eq_flatMap_only on root, fun k => pairwise_firstHead k root, ?_⟩
  intro horder k hk
  have hparts : k ∈ [CategoryName.anchors, .embeds, .frames, .images] →
      ∀ d, (row k).isPart d = false := by
    intro hmem d
    cases k with
    | anchors | embeds | frames | images => rfl
    | audio | objects | videos => exact absurd hmem (by decide)
  rw [linksInTree_only horder (hk.imp_left hparts)]
  exact inDocumentOrder_unique (.only k) root

/-- A medium whose source stands deeper, in front of another one. -/
theorem linksInTree_order_two_media :
    let root := fragment "<audio src='b'><p><source src='a'></p></audio><audio src='c'>".toList
    InOrder root ∧ (row .audio).Flat root.children ∧
      InDocumentOrder (.only .audio) root (linksInTree (.only .audio) root) := by
  intro root
  have horder : InOrder root := by decide +kernel
  have hflat : (row .audio).Flat root.children := by decide +kernel
  exact ⟨horder, hflat, (linksInTree_order .all root).2.2 horder .audio (Or.inr hflat)⟩

/-- The parts of an outer object come in front of an inner object. -/
example :
    let root := fragment
      "<object data='a'><object data='b'></object><param name='src' value='c'></object>".toList
    unique ((root.descendants.filter (row .objects).isHead).flatMap (row .objects).links) =
      ["a", "c", "b"] := by
  decide +kernel

/-- An image in front of a hyperlink, whose address comes first. -/
theorem linksInTree_out_of_order :
    let root := fragment "<img src='b'><a href='a'>x</a>".toList
    InOrder root ∧ ¬ InDocumentOrder .all root (linksInTree .all root) := by
  intro root
  have horder : InOrder root := by decide +kernel
  refine ⟨horder, ?_⟩
  rw [linksInTree_of_inOrder horder]
  decide +kernel

end Extract
end LinkLedger
