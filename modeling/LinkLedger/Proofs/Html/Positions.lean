import LinkLedger.Html.Element
import Mathlib.Data.List.Basic

/-!
# Positions in a tree

An element of a tree stands within other elements.  Walking through the tree in the order of the
document comes to every element together with those around it.

**Results.**
* `mem_positions_iff`: the walk comes to the positions that stepping from children to children
  reaches.
* `map_element_positions`: it comes to the elements in the order in which they are listed.
* `lies_around_iff`: the elements around an element are those that it is below.
-/

namespace LinkLedger
namespace Html

/-- An element at its place in a tree, with the elements around it, the innermost one first. -/
@[ext] structure Position where
  around : List Element
  element : Element

namespace Element

/-- Below the outermost elements `es` there is an element that stands in others, the innermost one
first. -/
inductive Lies (es : List Element) : List Element → Element → Prop
  | outermost
      {e : Element}
      (h : e ∈ es) :
      Lies es [] e
  | inside
      {around : List Element}
      {p e : Element}
      (hp : Lies es around p)
      (h : e ∈ p.children) :
      Lies es (p :: around) e

mutual

/-- An element within others and everything below it, in the order of the document. -/
def walk (around : List Element) : Element → List Position
  | node n v name attributes children =>
      ⟨around, node n v name attributes children⟩ ::
        walkOf (node n v name attributes children :: around) children

/-- Elements within others and everything below them. -/
def walkOf (around : List Element) : List Element → List Position
  | [] => []
  | e :: es => walk around e ++ walkOf around es

end

/-- The positions below a root, in the order of the document. -/
def positions (root : Element) : List Position :=
  walkOf [] root.children

@[simp] theorem walkOf_nil
    (around : List Element) :
    walkOf around [] = [] := by
  simp [walkOf]

@[simp] theorem walkOf_cons
    (around : List Element)
    (e : Element)
    (es : List Element) :
    walkOf around (e :: es) = walk around e ++ walkOf around es := by
  simp [walkOf]

/-! ## What the walk comes to -/

mutual

theorem map_element_walk
    (around : List Element) :
    ∀ e : Element, (walk around e).map (·.element) = listing e
  | node n v name attributes es => by
      rw [walk, listing, List.map_cons, map_element_walkOf _ es]

theorem map_element_walkOf
    (around : List Element) :
    ∀ es : List Element, (walkOf around es).map (·.element) = listingOf es
  | [] => by simp
  | e :: es => by
      rw [walkOf_cons, listingOf_cons, List.map_append, map_element_walk around e,
        map_element_walkOf around es]

end

/-- The walk comes to the elements in the order in which they are listed. -/
theorem map_element_positions
    (root : Element) :
    root.positions.map (·.element) = root.descendants :=
  map_element_walkOf [] root.children

/-! ## Lying below elements -/

theorem not_lies_nil
    {around : List Element}
    {e : Element} :
    ¬ Lies [] around e := by
  intro h
  induction h with
  | outermost h => cases h
  | inside _ _ ih => exact ih

theorem Lies.mono
    {es es' around : List Element}
    {e : Element}
    (hsubset : es ⊆ es')
    (h : Lies es around e) :
    Lies es' around e := by
  induction h with
  | outermost h => exact .outermost (hsubset h)
  | inside _ h ih => exact .inside ih h

theorem lies_cons_iff
    (f : Element)
    (es : List Element)
    {around : List Element}
    {e : Element} :
    Lies (f :: es) around e ↔ Lies [f] around e ∨ Lies es around e := by
  constructor
  · intro h
    induction h with
    | outermost h =>
        rcases List.mem_cons.1 h with rfl | h
        · exact Or.inl (.outermost List.mem_cons_self)
        · exact Or.inr (.outermost h)
    | inside _ h ih => exact ih.imp (.inside · h) (.inside · h)
  · rintro (h | h)
    · exact h.mono (by simp)
    · exact h.mono (by simp)

/-- What lies below the children of an element lies below the element. -/
theorem Lies.within
    {es outer inner : List Element}
    {f e : Element}
    (hf : Lies es outer f)
    (h : Lies f.children inner e) :
    Lies es (inner ++ f :: outer) e := by
  induction h with
  | outermost h => exact .inside hf h
  | inside _ h ih => exact .inside ih h

/-- A single outermost element is the last of those around all others. -/
theorem lies_singleton_iff
    {f e : Element}
    {around : List Element} :
    Lies [f] around e ↔
      (around = [] ∧ e = f) ∨ ∃ inner, around = inner ++ [f] ∧ Lies f.children inner e := by
  constructor
  · intro h
    induction h with
    | outermost h => exact Or.inl ⟨rfl, List.mem_singleton.1 h⟩
    | inside _ h ih =>
        rcases ih with ⟨rfl, rfl⟩ | ⟨inner, rfl, hp⟩
        · exact Or.inr ⟨[], rfl, .outermost h⟩
        · exact Or.inr ⟨_ :: inner, rfl, .inside hp h⟩
  · rintro (⟨rfl, rfl⟩ | ⟨inner, rfl, h⟩)
    · exact .outermost List.mem_cons_self
    · exact Lies.within (.outermost List.mem_cons_self) h

mutual

theorem mem_walk_iff
    (outer : List Element)
    (p : Position) :
    ∀ f : Element, p ∈ walk outer f ↔
      ∃ inner, p.around = inner ++ outer ∧ Lies [f] inner p.element
  | node n v name attributes es => by
      rw [walk, List.mem_cons, mem_walkOf_iff _ p es]
      constructor
      · rintro (rfl | ⟨inner, haround, h⟩)
        · exact ⟨[], rfl, .outermost List.mem_cons_self⟩
        · refine ⟨inner ++ [node n v name attributes es], by simp [haround], ?_⟩
          exact lies_singleton_iff.2 (Or.inr ⟨inner, rfl, h⟩)
      · rintro ⟨inner, haround, h⟩
        rcases lies_singleton_iff.1 h with ⟨rfl, helement⟩ | ⟨deeper, rfl, hdeeper⟩
        · exact Or.inl (Position.ext haround helement)
        · exact Or.inr ⟨deeper, by simp [haround], hdeeper⟩

theorem mem_walkOf_iff
    (outer : List Element)
    (p : Position) :
    ∀ es : List Element, p ∈ walkOf outer es ↔
      ∃ inner, p.around = inner ++ outer ∧ Lies es inner p.element
  | [] => by
      rw [walkOf_nil]
      exact ⟨nofun, fun ⟨_, _, h⟩ => absurd h not_lies_nil⟩
  | e :: es => by
      rw [walkOf_cons, List.mem_append, mem_walk_iff outer p e, mem_walkOf_iff outer p es]
      simp only [lies_cons_iff e es, and_or_left, exists_or]

end

/-- The walk comes to the positions that stepping from children to children reaches. -/
theorem mem_positions_iff
    {root : Element}
    {p : Position} :
    p ∈ root.positions ↔ Lies root.children p.around p.element := by
  rw [positions, mem_walkOf_iff]
  simp

theorem mem_listingOf_iff
    {es : List Element}
    {e : Element} :
    e ∈ listingOf es ↔ ∃ around, Lies es around e := by
  rw [← map_element_walkOf [], List.mem_map]
  constructor
  · rintro ⟨p, hp, rfl⟩
    obtain ⟨inner, -, h⟩ := (mem_walkOf_iff [] p es).1 hp
    exact ⟨inner, h⟩
  · rintro ⟨around, h⟩
    exact ⟨⟨around, e⟩, (mem_walkOf_iff [] _ es).2 ⟨around, by simp, h⟩, rfl⟩

/-- The elements below an element, wherever it lies, and the elements that it is below. -/
theorem lies_around_iff
    {es : List Element}
    {f e : Element} :
    (∃ around, Lies es around e ∧ f ∈ around) ↔ f ∈ listingOf es ∧ e ∈ f.descendants := by
  constructor
  · rintro ⟨around, h, hf⟩
    induction h with
    | outermost _ => cases hf
    | @inside around p e hp h ih =>
        rcases List.mem_cons.1 hf with rfl | hf
        · exact ⟨mem_listingOf_iff.2 ⟨around, hp⟩, mem_listingOf_iff.2 ⟨[], .outermost h⟩⟩
        · obtain ⟨hlisted, hbelow⟩ := ih hf
          obtain ⟨inner, hinner⟩ := mem_listingOf_iff.1 hbelow
          exact ⟨hlisted, mem_listingOf_iff.2 ⟨p :: inner, .inside hinner h⟩⟩
  · rintro ⟨hf, he⟩
    obtain ⟨outer, houter⟩ := mem_listingOf_iff.1 hf
    obtain ⟨inner, hinner⟩ := mem_listingOf_iff.1 he
    exact ⟨inner ++ f :: outer, houter.within hinner, by simp⟩

end Element

end Html
end LinkLedger
