import LinkLedger.Proofs.Text.Tables

/-!
# What composing keeps

Spaces and control characters are neither taken apart nor put together with others, so a text in
which one stands still has it when it has been composed.

**Results.**
* `decompositions_above`: no entry of the table of decompositions has to do with these characters.
* `mem_composed`: composing keeps them.
-/

namespace LinkLedger
namespace Text

/-- Whether a character is a space or one of the control characters in front of it. -/
def isLow (c : Char) : Bool := c.toNat ≤ 32

/-! ## The table -/

/-- Whether a run takes apart, and into, characters above the space only. -/
def Run.isAbove (r : Run) : Bool :=
  32 < r.first && r.image.all fun n => 32 < n && n < 0x110000

set_option maxRecDepth 8000 in
theorem decompositions_lines :
    ∃ lines, decompositions = Mapping.ofLines lines ∧ ∃ texts, Spelled lines texts ∧
      (runsFrom 0 (texts.flatMap (·.splitOn ' '))).all Run.isAbove = true := by
  refine ⟨_, rfl, ?_⟩
  apply Exists.intro
  apply And.intro
  · repeat apply Spelled.cons
    exact .nil
  · decide +kernel

/-- Decompositions are of characters above the space into characters above the space. -/
theorem decompositions_above
    {r : Run}
    (hr : r ∈ decompositions.runs.toList) :
    32 < r.first ∧ ∀ n ∈ r.image, 32 < n ∧ n < 0x110000 := by
  obtain ⟨lines, heq, texts, hspelled, habove⟩ := decompositions_lines
  rw [heq, Mapping.toList_runs, hspelled.map_toList] at hr
  have hrun : r.isAbove = true := List.all_eq_true.1 habove r hr
  rw [Run.isAbove, Bool.and_eq_true, decide_eq_true_eq, List.all_eq_true] at hrun
  refine ⟨hrun.1, fun n hn => ?_⟩
  have himage := hrun.2 n hn
  rwa [Bool.and_eq_true, decide_eq_true_eq, decide_eq_true_eq] at himage

/-! ## Taking apart -/

theorem takenApart_of_none
    {image? : Char → Option (List Char)}
    {c : Char}
    (hparts : syllableParts? c.toNat = none)
    (himage : image? c = none)
    (depth : Nat) :
    takenApart image? depth c = [c] := by
  cases depth with
  | zero => rfl
  | succ depth => rw [takenApart, hparts, himage]

theorem decomposed_of_isLow
    {c : Char}
    (h : isLow c = true) :
    decomposed c = [c] := by
  have hlow : c.toNat ≤ 32 := of_decide_eq_true h
  refine takenApart_of_none ?_ ?_ _
  · rw [syllableParts?, if_neg (by omega)]
  · rw [Option.eq_none_iff_forall_ne_some]
    intro image himage
    obtain ⟨r, hr, hfirst, -⟩ := Mapping.exists_run himage
    have habove := (decompositions_above hr).1
    omega

theorem mem_flatMap_decomposed
    {c : Char}
    {cs : List Char}
    (h : isLow c = true)
    (hc : c ∈ cs) :
    c ∈ cs.flatMap decomposed :=
  List.mem_flatMap.2 ⟨c, hc, by rw [decomposed_of_isLow h]; exact List.mem_singleton_self c⟩

theorem mem_sortMarks
    {c : Char}
    {cs : List Char} :
    c ∈ sortMarks cs ↔ c ∈ cs :=
  List.mem_mergeSort

/-- Putting marks in order loses no character. -/
theorem mem_orderMarks
    {c : Char}
    {marks cs : List Char}
    (h : c ∈ marks ∨ c ∈ cs) :
    c ∈ orderMarks marks cs := by
  induction cs generalizing marks with
  | nil =>
      rw [orderMarks, mem_sortMarks, List.mem_reverse]
      simpa using h
  | cons d cs ih =>
      rw [orderMarks]
      split
      · rw [List.mem_append, mem_sortMarks, List.mem_reverse, List.mem_cons]
        rcases h with h | h
        · exact Or.inl h
        · rcases List.mem_cons.1 h with rfl | h
          · exact Or.inr (Or.inl rfl)
          · exact Or.inr (Or.inr (ih (Or.inr h)))
      · refine ih ?_
        rcases h with h | h
        · exact Or.inl (List.mem_cons_of_mem _ h)
        · rcases List.mem_cons.1 h with rfl | h
          · exact Or.inl List.mem_cons_self
          · exact Or.inr h

/-! ## Putting together -/

theorem exists_pair_of_enterPair
    {table : Std.HashMap Nat Nat}
    {r : Run}
    {key n : Nat}
    (h : (enterPair table r)[key]? = some n) :
    table[key]? = some n ∨ ∃ a b, r.image = [a, b] ∧ key = a * 0x110000 + b := by
  unfold enterPair at h
  split at h
  · next a b himage =>
    split at h
    · exact Or.inl h
    · rw [Std.HashMap.getElem?_insert] at h
      split at h
      · next hkey => exact Or.inr ⟨a, b, himage, (beq_iff_eq.1 hkey).symm⟩
      · exact Or.inl h
  · exact Or.inl h

/-- Pairs are entered run by run, so they come from the runs or have been there before. -/
theorem exists_run_of_foldl
    {runs : List Run}
    {table : Std.HashMap Nat Nat}
    {key n : Nat}
    (h : (runs.foldl enterPair table)[key]? = some n) :
    table[key]? = some n ∨
      ∃ r ∈ runs, ∃ a b, r.image = [a, b] ∧ key = a * 0x110000 + b := by
  induction runs generalizing table with
  | nil => exact Or.inl h
  | cons r runs ih =>
      rcases ih h with h | ⟨q, hq, hpair⟩
      · exact (exists_pair_of_enterPair h).imp_right fun hpair => ⟨r, List.mem_cons_self, hpair⟩
      · exact Or.inr ⟨q, List.mem_cons_of_mem _ hq, hpair⟩

/-- Pairs that are put together come from the table. -/
theorem exists_run_of_compositions
    {key n : Nat}
    (h : compositions[key]? = some n) :
    ∃ r ∈ decompositions.runs.toList, ∃ a b, r.image = [a, b] ∧ key = a * 0x110000 + b := by
  rw [compositions, ← Array.foldl_toList] at h
  exact (exists_run_of_foldl h).resolve_left (by simp)

/-- Only characters above the space are put together. -/
theorem isLow_of_joined?
    {a b d : Char}
    (h : joined? a b = some d) :
    isLow a = false ∧ isLow b = false := by
  have hcode : 32 < a.toNat ∧ 32 < b.toNat := by
    unfold joined? at h
    split at h
    · next n hjoin =>
      unfold joinSyllable? at hjoin
      split at hjoin
      · omega
      · split at hjoin
        · omega
        · cases hjoin
    · rw [Option.map_eq_some_iff] at h
      obtain ⟨n, hn, -⟩ := h
      obtain ⟨r, hr, i, j, himage, hkey⟩ := exists_run_of_compositions hn
      have habove := (decompositions_above hr).2
      have hi := habove i (by simp [himage])
      have hj := habove j (by simp [himage])
      have hb : b.toNat < 0x110000 := by
        rcases b.valid with hlow | hhigh
        · exact Nat.lt_trans hlow (by decide)
        · exact hhigh.2
      omega
  exact ⟨decide_eq_false (by omega), decide_eq_false (by omega)⟩

/-- Putting a text together loses no low character. -/
theorem mem_composeWith
    {c : Char}
    (h : isLow c = true)
    {starter : Char}
    {kept cs : List Char}
    (hc : c = starter ∨ c ∈ kept ∨ c ∈ cs)
    (last : Nat) :
    c ∈ composeWith starter kept last cs := by
  induction cs generalizing starter kept last with
  | nil =>
      rw [composeWith, List.mem_cons, List.mem_reverse]
      simpa using hc
  | cons d cs ih =>
      rw [composeWith]
      split
      · next e hjoined =>
        have hne : ∀ x, isLow x = false → c ≠ x := by
          rintro x hx rfl
          rw [h] at hx
          cases hx
        have hjoin : joined? starter d = some e := by
          split at hjoined
          · cases hjoined
          · exact hjoined
        obtain ⟨hstarter, hd⟩ := isLow_of_joined? hjoin
        refine ih ?_ last
        rcases hc with hc | hc | hc
        · exact absurd hc (hne _ hstarter)
        · exact Or.inr (Or.inl hc)
        · rcases List.mem_cons.1 hc with hc | hc
          · exact absurd hc (hne _ hd)
          · exact Or.inr (Or.inr hc)
      · split
        · rw [List.cons_append, List.mem_cons, List.mem_append, List.mem_reverse]
          rcases hc with hc | hc | hc
          · exact Or.inl hc
          · exact Or.inr (Or.inl hc)
          · refine Or.inr (Or.inr (ih ?_ 0))
            rcases List.mem_cons.1 hc with hc | hc
            · exact Or.inl hc
            · exact Or.inr (Or.inr hc)
        · refine ih ?_ _
          rcases hc with hc | hc | hc
          · exact Or.inl hc
          · exact Or.inr (Or.inl (List.mem_cons_of_mem _ hc))
          · rcases List.mem_cons.1 hc with rfl | hc
            · exact Or.inr (Or.inl List.mem_cons_self)
            · exact Or.inr (Or.inr hc)

theorem mem_compose
    {c : Char}
    {cs : List Char}
    (h : isLow c = true)
    (hc : c ∈ cs) :
    c ∈ compose cs := by
  induction cs with
  | nil => cases hc
  | cons d cs ih =>
      rw [compose]
      split
      · refine mem_composeWith h ?_ 0
        rcases List.mem_cons.1 hc with hc | hc
        · exact Or.inl hc
        · exact Or.inr (Or.inr hc)
      · rcases List.mem_cons.1 hc with hc | hc
        · exact List.mem_cons.2 (Or.inl hc)
        · exact List.mem_cons_of_mem _ (ih hc)

/-- Composing keeps low characters. -/
theorem mem_composed
    {c : Char}
    {cs : List Char}
    (h : isLow c = true)
    (hc : c ∈ cs) :
    c ∈ composed cs := by
  rw [composed]
  split
  · exact hc
  · exact mem_compose h (mem_orderMarks (Or.inr (mem_flatMap_decomposed h hc)))

end Text
end LinkLedger
