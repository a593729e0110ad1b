/-!
# First occurrences

A list without repetitions: of equal members only the first one stays.

**Results.**
* `mem_unique`: no member is lost and none is added.
* `nodup_unique`: no member is left twice.
-/

namespace LinkLedger

/-- A list without the members that occur in front of them, or in `seen`. -/
def uniqueFrom (seen : List String) : List String → List String
  | [] => []
  | x :: xs =>
      if x ∈ seen then uniqueFrom seen xs else x :: uniqueFrom (x :: seen) xs

/-- A list without repetitions, each member at the place of its first occurrence. -/
def unique (xs : List String) : List String := uniqueFrom [] xs

theorem mem_uniqueFrom {x : String} {seen xs : List String} :
    x ∈ uniqueFrom seen xs ↔ x ∈ xs ∧ x ∉ seen := by
  induction xs generalizing seen with
  | nil => simp [uniqueFrom]
  | cons y ys ih =>
      by_cases hy : y ∈ seen
      · simp only [uniqueFrom, hy, if_true, ih, List.mem_cons]
        constructor
        · rintro ⟨h, hs⟩
          exact ⟨Or.inr h, hs⟩
        · rintro ⟨rfl | h, hs⟩
          · exact absurd hy hs
          · exact ⟨h, hs⟩
      · simp only [uniqueFrom, hy, if_false, ih, List.mem_cons]
        constructor
        · rintro (rfl | ⟨h, hs⟩)
          · exact ⟨Or.inl rfl, hy⟩
          · exact ⟨Or.inr h, fun hx => hs (Or.inr hx)⟩
        · rintro ⟨rfl | h, hs⟩
          · exact Or.inl rfl
          · by_cases hxy : x = y
            · exact Or.inl hxy
            · exact Or.inr ⟨h, fun hx => hx.elim hxy hs⟩

@[simp] theorem mem_unique {x : String} {xs : List String} : x ∈ unique xs ↔ x ∈ xs := by
  simp [unique, mem_uniqueFrom]

theorem nodup_uniqueFrom (seen xs : List String) : (uniqueFrom seen xs).Nodup := by
  induction xs generalizing seen with
  | nil => simp [uniqueFrom]
  | cons y ys ih =>
      by_cases hy : y ∈ seen
      · simpa [uniqueFrom, hy] using ih seen
      · simp only [uniqueFrom, hy, if_false, List.nodup_cons]
        exact ⟨fun h => (mem_uniqueFrom.1 h).2 (by simp), ih _⟩

theorem nodup_unique (xs : List String) : (unique xs).Nodup := nodup_uniqueFrom [] xs

end LinkLedger
