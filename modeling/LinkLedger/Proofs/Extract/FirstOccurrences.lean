import LinkLedger.Extract.Unique
import Mathlib.Data.List.Basic

/-!
# Dropping repetitions early or late

A list whose repetitions are dropped in the end may have lost some before: it does not show whether
that was done in front of a filter or behind it, or in the parts that the list was put together from.

**Results.**
* `unique_filter`: repetitions are dropped before a filter or after it.
* `unique_append`: two lists together are the first and what the second adds to it.
* `unique_filterMap_unique`: repetitions that are dropped before a partial map are not missed.
* `unique_flatMap_congr`: nor are those that are dropped in the parts of a list.
* `pairwise_unique_flatMap`: members stand in the order of the first parts that have them.
-/

namespace LinkLedger

variable {seen seen' xs ys : List String}

/-- The members of a list that have not been seen, without repetitions. -/
theorem uniqueFrom_eq_eraseDups
    (seen xs : List String) :
    uniqueFrom seen xs = (xs.filter fun x => !seen.contains x).eraseDups := by
  induction xs generalizing seen with
  | nil => rfl
  | cons x xs ih =>
      by_cases hx : x ∈ seen
      · rw [uniqueFrom, if_pos hx, ih, List.filter_cons_of_neg (by simpa using hx)]
      · rw [uniqueFrom, if_neg hx, ih, List.filter_cons_of_pos (by simpa using hx),
          List.eraseDups_cons, List.filter_filter]
        simp only [List.contains_cons, Bool.not_or]

theorem unique_eq_eraseDups
    (xs : List String) :
    unique xs = xs.eraseDups := by
  have hall : xs.filter (fun x => !([] : List String).contains x) = xs :=
    List.filter_eq_self.2 fun _ _ => rfl
  rw [unique, uniqueFrom_eq_eraseDups, hall]

/-- What has been seen matters for the members of the list only. -/
theorem uniqueFrom_congr
    (h : ∀ x ∈ xs, x ∈ seen ↔ x ∈ seen') :
    uniqueFrom seen xs = uniqueFrom seen' xs := by
  rw [uniqueFrom_eq_eraseDups, uniqueFrom_eq_eraseDups]
  congr 1
  refine List.filter_congr fun x hx => ?_
  rw [List.contains_eq_mem, List.contains_eq_mem, decide_eq_decide.2 (h x hx)]

/-! ## Filters -/

/-- Members that fail a test do not stand in the way of others. -/
theorem uniqueFrom_filter
    (p : String → Bool)
    (seen xs : List String) :
    uniqueFrom seen (xs.filter p) = (uniqueFrom seen xs).filter p := by
  induction xs generalizing seen with
  | nil => rfl
  | cons x xs ih =>
      by_cases hx : x ∈ seen
      · rw [uniqueFrom, if_pos hx, ← ih]
        by_cases hp : p x = true
        · rw [List.filter_cons_of_pos hp, uniqueFrom, if_pos hx]
        · rw [List.filter_cons_of_neg hp]
      · rw [uniqueFrom, if_neg hx]
        by_cases hp : p x = true
        · rw [List.filter_cons_of_pos hp, List.filter_cons_of_pos hp, uniqueFrom, if_neg hx, ih]
        · rw [List.filter_cons_of_neg hp, List.filter_cons_of_neg hp, ← ih]
          refine uniqueFrom_congr fun y hy => ?_
          have hne : y ≠ x := fun heq => hp (heq ▸ (List.mem_filter.1 hy).2)
          rw [List.mem_cons, or_iff_right hne]

theorem unique_filter
    (p : String → Bool)
    (xs : List String) :
    unique (xs.filter p) = (unique xs).filter p :=
  uniqueFrom_filter p [] xs

/-! ## Parts -/

/-- Two lists together are the first and the members of the second that it does not have. -/
theorem unique_append
    (xs ys : List String) :
    unique (xs ++ ys) = unique xs ++ (unique ys).filter fun y => !(unique xs).contains y := by
  have hseen : ∀ y, (unique xs).contains y = xs.contains y := by
    intro y
    rw [List.contains_eq_mem, List.contains_eq_mem, decide_eq_decide.2 mem_unique]
  simp only [hseen]
  rw [← unique_filter, unique_eq_eraseDups, unique_eq_eraseDups, unique_eq_eraseDups,
    List.eraseDups_append]
  rfl

/-- A list may be put together from parts that have lost repetitions. -/
theorem unique_flatMap_congr
    {α : Type}
    {f g : α → List String}
    {as : List α}
    (h : ∀ a ∈ as, unique (f a) = unique (g a)) :
    unique (as.flatMap f) = unique (as.flatMap g) := by
  induction as with
  | nil => rfl
  | cons a as ih =>
      rw [List.flatMap_cons, List.flatMap_cons, unique_append, unique_append,
        h a List.mem_cons_self, ih fun b hb => h b (List.mem_cons_of_mem a hb)]

/-- Members stand in the order of the first parts that have them. -/
theorem pairwise_unique_flatMap
    {α : Type}
    (f : α → List String)
    (as : List α) :
    (unique (as.flatMap f)).Pairwise fun x y =>
      as.findIdx (fun a => (f a).contains x) ≤ as.findIdx (fun a => (f a).contains y) := by
  induction as with
  | nil => exact List.Pairwise.nil
  | cons a as ih =>
      have hfirst : ∀ x ∈ unique (f a), (a :: as).findIdx (fun a => (f a).contains x) = 0 := by
        intro x hx
        rw [List.findIdx_cons, List.contains_iff_mem.2 (mem_unique.1 hx), cond_true]
      have hlater : ∀ x ∈ (unique (as.flatMap f)).filter fun x => !(unique (f a)).contains x,
          (a :: as).findIdx (fun a => (f a).contains x) =
            as.findIdx (fun a => (f a).contains x) + 1 := by
        intro x hx
        have hnot : ¬ x ∈ f a := by simpa using (List.mem_filter.1 hx).2
        rw [List.findIdx_cons, List.contains_eq_mem, decide_eq_false hnot, cond_false]
      rw [List.flatMap_cons, unique_append, List.pairwise_append]
      refine ⟨?_, ?_, ?_⟩
      · refine List.Pairwise.imp_of_mem (fun hx _ _ => ?_) (nodup_unique (f a))
        rw [hfirst _ hx]
        exact Nat.zero_le _
      · refine (ih.sublist List.filter_sublist).imp_of_mem fun hx hy h => ?_
        rw [hlater _ hx, hlater _ hy]
        exact Nat.succ_le_succ h
      · intro x hx y _
        rw [hfirst x hx]
        exact Nat.zero_le _

/-! ## Lists without repetitions -/

/-- Nothing occurs in front of the members of a list without repetitions. -/
theorem uniqueFrom_of_nodup
    (h : xs.Nodup)
    (hseen : ∀ x ∈ xs, x ∉ seen) :
    uniqueFrom seen xs = xs := by
  induction xs generalizing seen with
  | nil => rfl
  | cons x xs ih =>
      obtain ⟨hx, hxs⟩ := List.nodup_cons.1 h
      have hrest : uniqueFrom (x :: seen) xs = xs := by
        refine ih hxs fun y hy hmem => ?_
        rcases List.mem_cons.1 hmem with rfl | hmem
        · exact hx hy
        · exact hseen y (List.mem_cons_of_mem x hy) hmem
      rw [uniqueFrom, if_neg (hseen x List.mem_cons_self), hrest]

theorem unique_of_nodup
    (h : xs.Nodup) :
    unique xs = xs :=
  uniqueFrom_of_nodup h (by simp)

@[simp] theorem unique_unique
    (xs : List String) :
    unique (unique xs) = unique xs :=
  unique_of_nodup (nodup_unique xs)

/-! ## Partial maps -/

/--
Members that occur in front map to what occurs in front, so that they may be dropped first: if what
has been seen maps to what has been seen.
-/
theorem uniqueFrom_filterMap_uniqueFrom
    {f : String → Option String}
    (h : ∀ x ∈ seen, ∀ y ∈ f x, y ∈ seen') :
    uniqueFrom seen' ((uniqueFrom seen xs).filterMap f) = uniqueFrom seen' (xs.filterMap f) := by
  induction xs generalizing seen seen' with
  | nil => rfl
  | cons x xs ih =>
      by_cases hx : x ∈ seen
      · rw [uniqueFrom, if_pos hx, ih h]
        cases hy : f x with
        | none => rw [List.filterMap_cons_none hy]
        | some y => rw [List.filterMap_cons_some hy, uniqueFrom, if_pos (h x hx y hy)]
      · rw [uniqueFrom, if_neg hx]
        cases hy : f x with
        | none =>
            rw [List.filterMap_cons_none hy, List.filterMap_cons_none hy]
            refine ih fun z hz y' hy' => ?_
            rcases List.mem_cons.1 hz with rfl | hz
            · rw [hy] at hy'
              cases hy'
            · exact h z hz y' hy'
        | some y =>
            have hmore : ∀ z ∈ x :: seen, ∀ y' ∈ f z, y' ∈ y :: seen' := by
              intro z hz y' hy'
              rcases List.mem_cons.1 hz with rfl | hz
              · rw [hy] at hy'
                cases hy'
                exact List.mem_cons_self
              · exact List.mem_cons_of_mem y (h z hz y' hy')
            rw [List.filterMap_cons_some hy, List.filterMap_cons_some hy, uniqueFrom, uniqueFrom]
            split
            · next hseen =>
              refine ih fun z hz y' hy' => ?_
              rcases List.mem_cons.1 (hmore z hz y' hy') with rfl | hmem
              · exact hseen
              · exact hmem
            · rw [ih hmore]

theorem unique_filterMap_unique
    (f : String → Option String)
    (xs : List String) :
    unique ((unique xs).filterMap f) = unique (xs.filterMap f) :=
  uniqueFrom_filterMap_uniqueFrom nofun

end LinkLedger
