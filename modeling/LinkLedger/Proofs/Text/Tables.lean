import LinkLedger.Text.Normal
import LinkLedger.Url.NameTable

/-!
# Reading tables

Tables of characters are written as texts and searched by halving.  What a table says of some
characters is read off its entries, one after the other; that a search finds an entry then follows,
because entries stand in ascending order however the text is written.

**Results.**
* `mem_of_seek`, `seek_eq_some`: what is found is there, and what is there is found.
* `Mapping.toList_runs`, `Ranges.toList_ranges`: the entries of a table by the characters of its
  text.
* `Mapping.image?_eq`, `Mapping.exists_run`, `Ranges.has_of_mem`, `Ranges.exists_range`: tables and
  their entries.
-/

namespace LinkLedger
namespace Text

/-! ## Halving -/

section Search

variable {α : Type} {bounds : α → Nat × Nat} {items : Array α} {n : Nat}

/-- The item between two positions whose bounds enclose a number, by halving. -/
def seek (bounds : α → Nat × Nat) (items : Array α) (n : Nat) : Nat → Nat → Nat → Option α
  | 0, _, _ => none
  | fuel + 1, low, high =>
      if low < high then
        let middle := (low + high) / 2
        match items[middle]? with
        | none => none
        | some a =>
            if n < (bounds a).1 then seek bounds items n fuel low middle
            else if (bounds a).2 < n then seek bounds items n fuel (middle + 1) high
            else some a
      else none

/-- What is found is one of the items, and its bounds enclose the number. -/
theorem mem_of_seek
    {fuel low high : Nat}
    {a : α}
    (h : seek bounds items n fuel low high = some a) :
    a ∈ items.toList ∧ (bounds a).1 ≤ n ∧ n ≤ (bounds a).2 := by
  induction fuel generalizing low high with
  | zero => cases h
  | succ fuel ih =>
      rw [seek] at h
      split at h
      · dsimp only at h
        split at h
        · cases h
        · next b hb =>
          split at h
          · exact ih h
          · next hfirst =>
            split at h
            · exact ih h
            · next hlast =>
              rw [← Option.some.inj h]
              exact ⟨Array.mem_toList_iff.2 (Array.mem_of_getElem? hb), Nat.le_of_not_lt hfirst,
                Nat.le_of_not_lt hlast⟩
      · cases h

/-- Items in ascending order, each with bounds in order. -/
structure Ascending (bounds : α → Nat × Nat) (items : List α) : Prop where
  ordered : items.Pairwise fun a b => (bounds a).2 < (bounds b).1
  proper : ∀ a ∈ items, (bounds a).1 ≤ (bounds a).2

/-- An item whose bounds enclose the number is found. -/
theorem seek_eq_some
    (hitems : Ascending bounds items.toList)
    {a : α}
    {i : Nat}
    (ha : items[i]? = some a)
    (hfirst : (bounds a).1 ≤ n)
    (hlast : n ≤ (bounds a).2)
    {fuel low high : Nat}
    (hlow : low ≤ i)
    (hhigh : i < high)
    (hsize : high ≤ items.size)
    (hfuel : high - low < Nat.pow 2 fuel) :
    seek bounds items n fuel low high = some a := by
  have hbefore : ∀ {j k : Nat} {b d : α}, j < k → items[j]? = some b → items[k]? = some d →
      (bounds b).2 < (bounds d).1 := by
    intro j k b d hjk hb hd
    obtain ⟨hj, rfl⟩ := Array.getElem?_eq_some_iff.1 hb
    obtain ⟨hk, rfl⟩ := Array.getElem?_eq_some_iff.1 hd
    exact List.pairwise_iff_getElem.1 hitems.ordered j k hj hk hjk
  induction fuel generalizing low high with
  | zero =>
      have hone : high - low < 1 := hfuel
      omega
  | succ fuel ih =>
      have hmiddle : (low + high) / 2 < items.size := by omega
      change high - low < Nat.pow 2 fuel * 2 at hfuel
      rw [seek, if_pos (by omega)]
      dsimp only
      have hb : items[(low + high) / 2]? = some items[(low + high) / 2] :=
        Array.getElem?_eq_getElem hmiddle
      rw [hb]
      dsimp only
      generalize items[(low + high) / 2] = b at hb
      rcases Nat.lt_trichotomy i ((low + high) / 2) with hleft | hhere | hright
      · have hless := hbefore hleft ha hb
        rw [if_pos (by omega)]
        exact ih hlow hleft (by omega) (by omega)
      · rw [← hhere, ha] at hb
        cases hb
        rw [if_neg (by omega), if_neg (by omega)]
      · have hless := hbefore hright hb ha
        have hproper := hitems.proper b
          (Array.mem_toList_iff.2 (Array.mem_of_getElem? hb))
        rw [if_neg (by omega), if_pos (by omega)]
        exact ih (by omega) hhigh hsize (by omega)

/-- An item among fewer than 2 ^ 32 is found. -/
theorem seek_eq_some_of_mem
    (hitems : Ascending bounds items.toList)
    (hsize : items.size < Nat.pow 2 32)
    {a : α}
    (ha : a ∈ items.toList)
    (hfirst : (bounds a).1 ≤ n)
    (hlast : n ≤ (bounds a).2) :
    seek bounds items n 32 0 items.size = some a := by
  obtain ⟨i, hi, rfl⟩ := List.mem_iff_getElem.1 ha
  exact seek_eq_some hitems (Array.getElem?_eq_getElem hi) hfirst hlast (Nat.zero_le i) hi
    (Nat.le_refl _) hsize

end Search

/-- The bounds of a run. -/
def Run.bounds (r : Run) : Nat × Nat := (r.first, r.last)

theorem imageIn_eq_seek
    (runs : Array Run)
    (n fuel low high : Nat) :
    imageIn runs n fuel low high =
      (seek Run.bounds runs n fuel low high).bind fun r => r.image? n := by
  induction fuel generalizing low high with
  | zero => rfl
  | succ fuel ih =>
      rw [imageIn, seek]
      split
      · dsimp only
        cases runs[(low + high) / 2]? with
        | none => rfl
        | some r =>
            dsimp only
            by_cases hfirst : n < r.first
            · rw [if_pos hfirst, if_pos (show n < r.bounds.1 from hfirst)]
              exact ih _ _
            · rw [if_neg hfirst, if_neg (show ¬ n < r.bounds.1 from hfirst)]
              by_cases hlast : r.last < n
              · rw [if_pos hlast, if_pos (show r.bounds.2 < n from hlast)]
                exact ih _ _
              · rw [if_neg hlast, if_neg (show ¬ r.bounds.2 < n from hlast)]
                rfl
      · rfl

theorem inRanges_eq_seek
    (ranges : Array (Nat × Nat))
    (n fuel low high : Nat) :
    inRanges ranges n fuel low high = (seek id ranges n fuel low high).isSome := by
  induction fuel generalizing low high with
  | zero => rfl
  | succ fuel ih =>
      rw [inRanges, seek]
      split
      · dsimp only
        cases ranges[(low + high) / 2]? with
        | none => rfl
        | some range =>
            dsimp only
            by_cases hfirst : n < range.1
            · rw [if_pos hfirst, if_pos (show n < (id range).1 from hfirst)]
              exact ih _ _
            · rw [if_neg hfirst, if_neg (show ¬ n < (id range).1 from hfirst)]
              by_cases hlast : range.2 < n
              · rw [if_pos hlast, if_pos (show (id range).2 < n from hlast)]
                exact ih _ _
              · rw [if_neg hlast, if_neg (show ¬ (id range).2 < n from hlast)]
                rfl
      · rfl

/-! ## Lines -/

/-- Lines by their characters. -/
inductive Spelled : List String → List (List Char) → Prop where
  | nil : Spelled [] []
  | cons {cs : List Char} {lines : List String} {texts : List (List Char)}
      (h : Spelled lines texts) :
      Spelled (String.ofList cs :: lines) (cs :: texts)

theorem Spelled.map_toList
    {lines : List String}
    {texts : List (List Char)}
    (h : Spelled lines texts) :
    lines.map String.toList = texts := by
  induction h with
  | nil => rfl
  | cons _ ih => rw [List.map_cons, ih, String.toList_ofList]

/-! ## Maps -/

/-- The runs that entries stand for, behind the position `start`. -/
def runsFrom : Nat → List (List Char) → List Run
  | _, [] => []
  | start, entry :: entries =>
      runOf start entry :: runsFrom ((runOf start entry).last + 1) entries

theorem foldl_push_runOf
    (entries : List (List Char))
    (runs : Array Run)
    (start : Nat) :
    (entries.foldl
      (fun (runs, start) cs =>
        let run := runOf start cs
        (runs.push run, run.last + 1))
      (runs, start)).1.toList = runs.toList ++ runsFrom start entries := by
  induction entries generalizing runs start with
  | nil => simp [runsFrom]
  | cons entry entries ih =>
      rw [List.foldl_cons, ih, Array.toList_push, runsFrom, List.append_assoc]
      rfl

/-- The runs of a map by the entries of its lines. -/
theorem Mapping.toList_runs
    (lines : List String) :
    (Mapping.ofLines lines).runs.toList =
      runsFrom 0 ((lines.map String.toList).flatMap (·.splitOn ' ')) := by
  have hfold := foldl_push_runOf ((lines.map String.toList).flatMap (·.splitOn ' ')) #[] 0
  rw [List.flatMap_map] at hfold ⊢
  exact hfold

/-- Runs stand in ascending order behind their start. -/
theorem ascending_runsFrom
    (start : Nat)
    (entries : List (List Char)) :
    Ascending Run.bounds (runsFrom start entries) ∧
      ∀ r ∈ runsFrom start entries, start ≤ r.first := by
  induction entries generalizing start with
  | nil => exact ⟨⟨List.Pairwise.nil, by simp [runsFrom]⟩, by simp [runsFrom]⟩
  | cons entry entries ih =>
      obtain ⟨⟨hordered, hproper⟩, hbehind⟩ := ih ((runOf start entry).last + 1)
      have hfirst : start ≤ (runOf start entry).first := Nat.le_add_right _ _
      have hlast : (runOf start entry).first ≤ (runOf start entry).last := Nat.le_add_right _ _
      rw [runsFrom]
      refine ⟨⟨List.pairwise_cons.2 ⟨fun r hr => hbehind r hr, hordered⟩, ?_⟩, ?_⟩
      · intro r hr
        rcases List.mem_cons.1 hr with rfl | hr
        · exact hlast
        · exact hproper r hr
      · intro r hr
        rcases List.mem_cons.1 hr with rfl | hr
        · exact hfirst
        · have hless := hbehind r hr
          omega

/-- A run that a number belongs to gives its image. -/
theorem Mapping.image?_eq
    {lines : List String}
    (hsize : (Mapping.ofLines lines).runs.size < Nat.pow 2 32)
    {r : Run}
    (hr : r ∈ (Mapping.ofLines lines).runs.toList)
    {c : Char}
    (hfirst : r.first ≤ c.toNat)
    (hlast : c.toNat ≤ r.last) :
    (Mapping.ofLines lines).image? c = r.image? c.toNat := by
  have hascending : Ascending Run.bounds (Mapping.ofLines lines).runs.toList := by
    rw [toList_runs]
    exact (ascending_runsFrom _ _).1
  rw [image?, imageIn_eq_seek, seek_eq_some_of_mem hascending hsize hr hfirst hlast]
  rfl

/-- A character with an image belongs to a run. -/
theorem Mapping.exists_run
    {m : Mapping}
    {c : Char}
    {image : List Char}
    (h : m.image? c = some image) :
    ∃ r ∈ m.runs.toList, r.first ≤ c.toNat ∧ c.toNat ≤ r.last := by
  rw [image?, imageIn_eq_seek, Option.bind_eq_some_iff] at h
  obtain ⟨r, hr, -⟩ := h
  exact ⟨r, mem_of_seek hr⟩

/-! ## Sets -/

/-- Reads one more character of a text of numbers. -/
def readDigit (state : Array Nat × Nat) (c : Char) : Array Nat × Nat :=
  if c = ' ' then (state.1.push state.2, 0) else (state.1, state.2 * 36 + base36Digit c)

theorem base36Numbers_eq
    (cs : List Char) :
    base36Numbers cs = (cs.foldl readDigit (#[], 0)).1.push (cs.foldl readDigit (#[], 0)).2 :=
  rfl

theorem foldl_readDigit
    (cs : List Char)
    (done : Array Nat)
    (current : Nat) :
    cs.foldl readDigit (done, current) =
      (done ++ (cs.foldl readDigit (#[], current)).1, (cs.foldl readDigit (#[], current)).2) := by
  induction cs generalizing done current with
  | nil => simp
  | cons c cs ih =>
      rw [List.foldl_cons, List.foldl_cons, readDigit, readDigit]
      split
      · rw [ih, ih (#[].push current)]
        simp
      · exact ih _ _

/-- Numbers are read one after the other. -/
theorem base36Numbers_append
    (front back : List Char) :
    base36Numbers (front ++ ' ' :: back) = base36Numbers front ++ base36Numbers back := by
  rw [base36Numbers_eq, base36Numbers_eq front, base36Numbers_eq back, List.foldl_append,
    List.foldl_cons, readDigit, if_pos rfl, foldl_readDigit back]
  simp

/-- The ranges of a set by the numbers of its lines. -/
theorem Ranges.toList_ranges
    {lines : List String}
    (hlines : lines ≠ []) :
    (Ranges.ofLines lines).ranges.toList =
      rangesOf 0 ((lines.map String.toList).flatMap fun cs => (base36Numbers cs).toList) := by
  have hnumbers : ∀ texts : List (List Char), texts ≠ [] →
      (base36Numbers ([' '].intercalate texts)).toList =
        texts.flatMap fun cs => (base36Numbers cs).toList := by
    intro texts htexts
    induction texts with
    | nil => exact absurd rfl htexts
    | cons cs texts ih =>
        cases texts with
        | nil => simp [List.intercalate]
        | cons cs' texts =>
            rw [List.intercalate_cons_cons, List.append_assoc, List.singleton_append,
              base36Numbers_append, Array.toList_append, ih (List.cons_ne_nil _ _)]
            rfl
  rw [← hnumbers _ (by simpa using hlines)]
  change rangesOf 0 (base36Numbers (" ".intercalate lines).toList).toList = _
  rw [String.toList_intercalate]
  rfl

/-- Ranges stand in ascending order behind their start. -/
theorem ascending_rangesOf
    (position : Nat)
    (numbers : List Nat) :
    Ascending id (rangesOf position numbers) ∧ ∀ r ∈ rangesOf position numbers, position ≤ r.1 := by
  induction position, numbers using rangesOf.induct with
  | case1 position gap length rest ih =>
      obtain ⟨⟨hordered, hproper⟩, hbehind⟩ := ih
      rw [rangesOf]
      refine ⟨⟨List.pairwise_cons.2 ⟨fun r hr => hbehind r hr, hordered⟩, ?_⟩, ?_⟩
      · intro r hr
        rcases List.mem_cons.1 hr with rfl | hr
        · exact Nat.le_add_right _ _
        · exact hproper r hr
      · intro r hr
        rcases List.mem_cons.1 hr with rfl | hr
        · exact Nat.le_add_right _ _
        · have hless := hbehind r hr
          omega
  | case2 position numbers hshort =>
      rw [rangesOf]
      · exact ⟨⟨List.Pairwise.nil, by simp⟩, by simp⟩
      · exact hshort

/-- A character in one of the ranges is in the set. -/
theorem Ranges.has_of_mem
    {lines : List String}
    (hsize : (Ranges.ofLines lines).ranges.size < Nat.pow 2 32)
    {range : Nat × Nat}
    (hrange : range ∈ (Ranges.ofLines lines).ranges.toList)
    {c : Char}
    (hfirst : range.1 ≤ c.toNat)
    (hlast : c.toNat ≤ range.2) :
    (Ranges.ofLines lines).has c = true := by
  have hascending : Ascending id (Ranges.ofLines lines).ranges.toList :=
    (ascending_rangesOf _ _).1
  rw [has, inRanges_eq_seek, seek_eq_some_of_mem hascending hsize hrange hfirst hlast]
  rfl

/-- A character in the set is in one of the ranges. -/
theorem Ranges.exists_range
    {s : Ranges}
    {c : Char}
    (h : s.has c = true) :
    ∃ range ∈ s.ranges.toList, range.1 ≤ c.toNat ∧ c.toNat ≤ range.2 := by
  rw [has, inRanges_eq_seek, Option.isSome_iff_exists] at h
  obtain ⟨range, hrange⟩ := h
  exact ⟨range, mem_of_seek hrange⟩

end Text
end LinkLedger
