import LinkLedger.Proofs.Extract.Categories
import LinkLedger.Proofs.Html.Positions

/-!
# The attributes that links are read from

Which attributes of an element are read depends on its name, on the names of the elements around it,
and for parameters on what they are called.  A tree is searched once for each category, and below
every head once more for its parts; this finds the values of these attributes and nothing else.

**Results.**
* `reads_iff`: the attributes that a category reads at a position, by its row.
* `mem_linksAt_iff`: the links at a position.
* `mem_linksInTree_iff_linksAt`: the links of a tree are those at its positions.
* `linksInTree_exact`: the links of a tree, said without searching it.
-/

namespace LinkLedger
namespace Extract

open Html Text

/-! ## What is read -/

/-- An attribute of an element that a category reads, where the element stands within others. -/
inductive Reads (around : List Element) (e : Element) : CategoryName → String → Prop
  | anchor
      (h : e.name ∈ ["a", "area"]) :
      Reads around e .anchors "href"
  | audio
      (h : e.name = "audio") :
      Reads around e .audio "src"
  | audioPart
      (h : e.name ∈ ["source", "track"])
      (haround : ∃ p ∈ around, p.name = "audio") :
      Reads around e .audio "src"
  | embed
      {name : String}
      (h : e.name = "embed")
      (hname : name ∈ ["src", "pluginurl", "pluginspage"]) :
      Reads around e .embeds name
  | frame
      (h : e.name = "iframe") :
      Reads around e .frames "src"
  | image
      {name : String}
      (h : e.name = "img")
      (hname : name ∈ ["src", "longdesc"]) :
      Reads around e .images name
  | object
      {name : String}
      (h : e.name = "object")
      (hname : name ∈ ["data", "codebase"]) :
      Reads around e .objects name
  | parameter
      (h : e.name = "param")
      (hlink :
        (∃ text ∈ ["archive", "filename", "href", "movie", "src", "url"],
          e.attribute? "name" = some text) ∨
        e.attribute? "src" = some "movie")
      (haround : ∃ p ∈ around, p.name = "object") :
      Reads around e .objects "value"
  | video
      {name : String}
      (h : e.name = "video")
      (hname : name ∈ ["poster", "src"]) :
      Reads around e .videos name
  | videoPart
      (h : e.name ∈ ["source", "track"])
      (haround : ∃ p ∈ around, p.name = "video") :
      Reads around e .videos "src"

/-- A link is the value of an attribute without the blanks around it, unless nothing is left. -/
def IsValue (e : Element) (name link : String) : Prop :=
  ∃ value, e.attribute? name = some value ∧ link = trimmed value ∧ link ≠ ""

theorem linkOf_eq_some_iff
    {e : Element}
    {name link : String} :
    linkOf e name = some link ↔ IsValue e name link := by
  rw [linkOf, IsValue]
  cases e.attribute? name with
  | none => simp
  | some value =>
      dsimp only
      by_cases hempty : (trimmed value).isEmpty = true
      · rw [if_pos hempty]
        refine ⟨nofun, ?_⟩
        rintro ⟨_, ⟨⟩, rfl, hne⟩
        exact absurd (String.isEmpty_iff.1 hempty) hne
      · rw [if_neg hempty, Option.some_inj]
        constructor
        · rintro rfl
          exact ⟨value, rfl, rfl, fun h => hempty (String.isEmpty_iff.2 h)⟩
        · rintro ⟨_, ⟨⟩, rfl, -⟩
          rfl

theorem carriesLink_iff
    {e : Element} :
    carriesLink e = true ↔
      (∃ text ∈ linkParameters, e.attribute? "name" = some text) ∨
        e.attribute? "src" = some "movie" := by
  rw [carriesLink, Bool.or_eq_true, beq_iff_eq]
  refine or_congr_left ?_
  cases e.attribute? "name" with
  | none => simp
  | some text => simp

/-! ## What is read at a position -/

/-- The attributes that are read at a position: those of heads, and of parts within heads. -/
def Row.attributesAt (r : Row) (p : Position) : List String :=
  if r.isHead p.element then r.attributes
  else if r.isPart p.element && p.around.any r.isHead then r.partAttributes
  else []

theorem Row.isHead_iff
    {r : Row}
    {e : Element} :
    r.isHead e = true ↔ e.name ∈ r.heads :=
  List.contains_iff_mem

/-- No part of a head is a head itself. -/
theorem isHead_of_isPart
    {k : CategoryName}
    {e : Element}
    (h : (row k).isPart e = true) :
    (row k).isHead e = false := by
  cases k with
  | anchors | embeds | frames | images => cases h
  | audio | videos =>
      have hname : e.name ∈ ["source", "track"] := List.contains_iff_mem.1 h
      rw [Bool.eq_false_iff, Ne, Row.isHead_iff]
      intro hhead
      rw [List.mem_singleton.1 hhead] at hname
      exact absurd hname (by decide)
  | objects =>
      have hname : e.name = "param" := beq_iff_eq.1 (Bool.and_eq_true_iff.1 h).1
      rw [Row.isHead, row, hname]
      rfl

/-- A category reads the attributes of its heads, and those of the parts within them. -/
theorem mem_attributesAt_iff
    {k : CategoryName}
    {p : Position}
    {name : String} :
    name ∈ (row k).attributesAt p ↔
      ((row k).isHead p.element = true ∧ name ∈ (row k).attributes) ∨
        ((row k).isPart p.element = true ∧ (∃ f ∈ p.around, (row k).isHead f = true) ∧
          name ∈ (row k).partAttributes) := by
  rw [Row.attributesAt, ← List.any_eq_true]
  by_cases hhead : (row k).isHead p.element = true
  · have hpart : ¬ (row k).isPart p.element = true := by
      intro hpart
      rw [isHead_of_isPart hpart] at hhead
      cases hhead
    simp [hhead, hpart]
  · rw [if_neg hhead]
    cases (row k).isPart p.element with
    | false => simp [hhead]
    | true => cases p.around.any (row k).isHead <;> simp [hhead]

theorem reads_iff
    {k : CategoryName}
    {p : Position}
    {name : String} :
    Reads p.around p.element k name ↔ name ∈ (row k).attributesAt p := by
  simp only [mem_attributesAt_iff, Row.isHead_iff]
  constructor
  · intro h
    cases h with
    | anchor h => exact Or.inl ⟨h, List.mem_singleton.2 rfl⟩
    | audio h => exact Or.inl ⟨List.mem_singleton.2 h, List.mem_singleton.2 rfl⟩
    | audioPart h haround =>
        obtain ⟨f, hf, hname⟩ := haround
        exact Or.inr ⟨List.contains_iff_mem.2 h, ⟨f, hf, List.mem_singleton.2 hname⟩,
          List.mem_singleton.2 rfl⟩
    | embed h hname => exact Or.inl ⟨List.mem_singleton.2 h, hname⟩
    | frame h => exact Or.inl ⟨List.mem_singleton.2 h, List.mem_singleton.2 rfl⟩
    | image h hname => exact Or.inl ⟨List.mem_singleton.2 h, hname⟩
    | object h hname => exact Or.inl ⟨List.mem_singleton.2 h, hname⟩
    | parameter h hlink haround =>
        obtain ⟨f, hf, hname⟩ := haround
        exact Or.inr ⟨Bool.and_eq_true_iff.2 ⟨beq_iff_eq.2 h, carriesLink_iff.2 hlink⟩,
          ⟨f, hf, List.mem_singleton.2 hname⟩, List.mem_singleton.2 rfl⟩
    | video h hname => exact Or.inl ⟨List.mem_singleton.2 h, hname⟩
    | videoPart h haround =>
        obtain ⟨f, hf, hname⟩ := haround
        exact Or.inr ⟨List.contains_iff_mem.2 h, ⟨f, hf, List.mem_singleton.2 hname⟩,
          List.mem_singleton.2 rfl⟩
  · rintro (⟨hhead, hname⟩ | ⟨hpart, ⟨f, hf, hhead⟩, hname⟩)
    · cases k with
      | anchors => exact List.mem_singleton.1 hname ▸ .anchor hhead
      | audio => exact List.mem_singleton.1 hname ▸ .audio (List.mem_singleton.1 hhead)
      | embeds => exact .embed (List.mem_singleton.1 hhead) hname
      | frames => exact List.mem_singleton.1 hname ▸ .frame (List.mem_singleton.1 hhead)
      | images => exact .image (List.mem_singleton.1 hhead) hname
      | objects => exact .object (List.mem_singleton.1 hhead) hname
      | videos => exact .video (List.mem_singleton.1 hhead) hname
    · cases k with
      | anchors | embeds | frames | images => cases hname
      | audio =>
          exact List.mem_singleton.1 hname ▸
            .audioPart (List.contains_iff_mem.1 hpart) ⟨f, hf, List.mem_singleton.1 hhead⟩
      | objects =>
          obtain ⟨hparam, hlink⟩ := Bool.and_eq_true_iff.1 hpart
          exact List.mem_singleton.1 hname ▸
            .parameter (beq_iff_eq.1 hparam) (carriesLink_iff.1 hlink)
              ⟨f, hf, List.mem_singleton.1 hhead⟩
      | videos =>
          exact List.mem_singleton.1 hname ▸
            .videoPart (List.contains_iff_mem.1 hpart) ⟨f, hf, List.mem_singleton.1 hhead⟩

/-! ## Links at positions -/

/-- The links that a category reads at a position. -/
def linksFor (k : CategoryName) (p : Position) : List String :=
  linksOf p.element ((row k).attributesAt p)

/-- The links at a position in the categories that are on. -/
def linksAt (on : Categories) (p : Position) : List String :=
  (CategoryName.all.filter on.has).flatMap fun k => linksFor k p

theorem mem_linksAt_iff
    {on : Categories}
    {p : Position}
    {link : String} :
    link ∈ linksAt on p ↔
      ∃ k name, on.has k = true ∧ Reads p.around p.element k name ∧
        IsValue p.element name link := by
  simp only [linksAt, linksFor, List.mem_flatMap, List.mem_filter, CategoryName.mem_all, true_and,
    mem_linksOf_iff, linkOf_eq_some_iff, ← reads_iff, exists_and_left]

/-- What is read of the heads and of their parts is what is read at all positions. -/
theorem exists_head_iff
    {k : CategoryName}
    {root : Element}
    {link : String} :
    (∃ e ∈ root.descendants, (row k).isHead e = true ∧ link ∈ (row k).links e) ↔
      ∃ p ∈ root.positions, link ∈ linksFor k p := by
  simp only [Row.links, List.mem_append, List.mem_flatMap, List.mem_filter, linksFor,
    mem_linksOf_iff, mem_attributesAt_iff]
  constructor
  · rintro ⟨e, he, hhead, ⟨name, hname, hlink⟩ | ⟨d, ⟨hd, hpart⟩, name, hname, hlink⟩⟩
    · obtain ⟨around, hlies⟩ := Element.mem_listingOf_iff.1 he
      exact ⟨⟨around, e⟩, Element.mem_positions_iff.2 hlies, name, Or.inl ⟨hhead, hname⟩, hlink⟩
    · obtain ⟨around, hlies, hmem⟩ := Element.lies_around_iff.2 ⟨he, hd⟩
      exact ⟨⟨around, d⟩, Element.mem_positions_iff.2 hlies, name,
        Or.inr ⟨hpart, ⟨e, hmem, hhead⟩, hname⟩, hlink⟩
  · rintro ⟨p, hp, name, ⟨hhead, hname⟩ | ⟨hpart, ⟨f, hf, hhead⟩, hname⟩, hlink⟩
    · have he : p.element ∈ root.descendants :=
        Element.mem_listingOf_iff.2 ⟨_, Element.mem_positions_iff.1 hp⟩
      exact ⟨p.element, he, hhead, Or.inl ⟨name, hname, hlink⟩⟩
    · obtain ⟨he, hd⟩ := Element.lies_around_iff.1 ⟨_, Element.mem_positions_iff.1 hp, hf⟩
      exact ⟨f, he, hhead, Or.inr ⟨p.element, ⟨hd, hpart⟩, name, hname, hlink⟩⟩

/-- The links of a tree are those at its positions. -/
theorem mem_linksInTree_iff_linksAt
    {on : Categories}
    {root : Element}
    {link : String} :
    link ∈ linksInTree on root ↔ ∃ p ∈ root.positions, link ∈ linksAt on p := by
  simp only [mem_linksInTree_iff, exists_head_iff, linksAt, List.mem_flatMap, List.mem_filter,
    CategoryName.mem_all, true_and]
  constructor
  · rintro ⟨k, hon, p, hp, hlink⟩
    exact ⟨p, hp, k, hon, hlink⟩
  · rintro ⟨p, hp, k, hon, hlink⟩
    exact ⟨k, hon, p, hp, hlink⟩

/--
The links of a tree are the values of the attributes that a category reads which is on, at any depth
and within any elements, without the blanks around them and unless nothing is left.  None of them is
there twice.  The links of a text are those of its tree.
-/
theorem linksInTree_exact
    (on : Categories) :
    (∀ (root : Element) (link : String),
      link ∈ linksInTree on root ↔
        ∃ k around e name, on.has k = true ∧ Element.Lies root.children around e ∧
          Reads around e k name ∧ IsValue e name link) ∧
      (∀ root, (linksInTree on root).Nodup) ∧
      ∀ text, html on text = linksInTree on (fragment text.toList) := by
  refine ⟨fun root link => ?_, fun root => nodup_unique _, html_eq on⟩
  simp only [mem_linksInTree_iff_linksAt, mem_linksAt_iff, Element.mem_positions_iff]
  constructor
  · rintro ⟨p, hlies, k, name, hon, hreads, hvalue⟩
    exact ⟨k, p.around, p.element, name, hon, hlies, hreads, hvalue⟩
  · rintro ⟨k, around, e, name, hon, hlies, hreads, hvalue⟩
    exact ⟨⟨around, e⟩, hlies, k, name, hon, hreads, hvalue⟩

end Extract
end LinkLedger
