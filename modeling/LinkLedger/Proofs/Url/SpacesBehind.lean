import LinkLedger.Proofs.Url.Spaces

/-!
# Spaces behind a URL

A space behind a URL is ignored, but if it is written as an octet it belongs to the last part.  A host
or a port cannot take it in, and a path, a query or a fragment gets longer.

**Results.**
* `cut_append`: where a text is cut if something is put behind it.
* `length_joinPath_append`: a path with a longer last segment is longer, even if the segment meant
  another one before.
* `length_urlOf_append`: so is a URL with more text behind its authority.
* `length_lt_of_parse`: a URL with spaces behind it that are written as octets.
-/

namespace LinkLedger
namespace Url

open Text

/-! ## Cuts -/

/-- More text belongs to what is behind a cut, or to what is in front if there is no cut. -/
theorem cut_append
    {p : Char → Bool}
    {more : List Char}
    (hmore : ∀ c ∈ more, p c = false)
    (cs : List Char) :
    (since p cs = [] ∧ before p (cs ++ more) = cs ++ more ∧ since p (cs ++ more) = []) ∨
      (since p cs ≠ [] ∧ before p (cs ++ more) = before p cs ∧
        since p (cs ++ more) = since p cs ++ more) := by
  have hall : ∀ text : List Char, (∀ c ∈ text, p c = false) →
      before p text = text ∧ since p text = [] := by
    intro text htext
    have hbefore : before p text = text :=
      List.takeWhile_eq_self_iff.2 fun c hc => by rw [htext c hc]; rfl
    have hboth := before_append_since p text
    rw [hbefore] at hboth
    exact ⟨hbefore, List.append_right_eq_self.1 hboth⟩
  cases hsince : since p cs with
  | nil =>
      have hcs : ∀ c ∈ cs, p c = false := by
        have hboth := before_append_since p cs
        rw [hsince, List.append_nil] at hboth
        intro c hc
        rw [← hboth] at hc
        simpa using List.mem_takeWhile_imp hc
      have hwhole := hall (cs ++ more) (List.forall_mem_append.2 ⟨hcs, hmore⟩)
      exact Or.inl ⟨rfl, hwhole⟩
  | cons c rest =>
      have hbefore : before p (cs ++ more) = before p cs := by
        have hfront : ∀ d ∈ before p cs, p d = false := by
          intro d hd
          simpa using List.mem_takeWhile_imp hd
        have hnone : before p (c :: rest ++ more) = [] := by
          refine before_eq_nil fun d hd => ?_
          rw [← Option.some.inj hd]
          simpa using head_dropWhile hsince
        conv => lhs; rw [← before_append_since p cs, hsince]
        rw [List.append_assoc, before_append hfront, hnone, List.append_nil]
      refine Or.inr ⟨List.cons_ne_nil c rest, hbefore, ?_⟩
      have hboth := before_append_since p (cs ++ more)
      rw [hbefore] at hboth
      conv at hboth => rhs; rw [← before_append_since p cs, hsince, List.append_assoc]
      exact List.append_cancel_left hboth

/-! ## Paths -/

/-- A way to write a dot ends in a point or in a letter. -/
theorem exists_append_of_dropDot?
    {cs rest : List Char}
    (h : dropDot? cs = some rest) :
    ∃ front c, cs = front ++ c :: rest ∧ c ∈ ".eE".toList := by
  unfold dropDot? at h
  split at h
  · cases h
    exact ⟨[], '.', rfl, by decide⟩
  · cases h
    exact ⟨"%2".toList, 'e', rfl, by decide⟩
  · cases h
    exact ⟨"%2".toList, 'E', rfl, by decide⟩
  · cases h

/-- A segment that ends otherwise means itself. -/
theorem putSegment_concat
    {c : Char}
    (hc : c ∉ ".eE".toList)
    (last : Bool)
    (done : List (List Char))
    (front : List Char) :
    putSegment last done (front ++ [c]) = (front ++ [c]) :: done := by
  have hend : ∀ {text : List Char}, dropDot? text = some [] → text.getLast? ≠ some c := by
    intro text htext hlast
    obtain ⟨start, d, rfl, hd⟩ := exists_append_of_dropDot? htext
    rw [List.getLast?_concat] at hlast
    exact hc (Option.some.inj hlast ▸ hd)
  have hdot : isDot (front ++ [c]) = false := by
    rw [← Bool.not_eq_true]
    exact fun hdot => hend (of_decide_eq_true hdot) List.getLast?_concat
  have hdouble : isDoubleDot (front ++ [c]) = false := by
    rw [← Bool.not_eq_true]
    intro hdouble
    obtain ⟨rest, hfirst, hsecond⟩ := Option.bind_eq_some_iff.1 (of_decide_eq_true hdouble)
    obtain ⟨start, d, htext, hd⟩ := exists_append_of_dropDot? hfirst
    refine hend hsecond ?_
    obtain ⟨start', d', rfl, -⟩ := exists_append_of_dropDot? hsecond
    have hlast := congrArg List.getLast? htext
    rw [List.getLast?_concat, ← List.cons_append, ← List.append_assoc,
      List.getLast?_concat] at hlast
    rw [List.getLast?_concat, hlast]
  rw [putSegment, hdouble, hdot]
  rfl

/-- The length of segments with a slash in front of each. -/
def slashedLength (segments : List (List Char)) : Nat :=
  (segments.flatMap fun s => '/' :: s).length

@[simp] theorem slashedLength_cons
    (s : List Char)
    (segments : List (List Char)) :
    slashedLength (s :: segments) = s.length + 1 + slashedLength segments := by
  rw [slashedLength, List.flatMap_cons, List.length_append, List.length_cons]
  rfl

theorem slashedLength_reverse
    (segments : List (List Char)) :
    slashedLength segments.reverse = slashedLength segments :=
  ((List.reverse_perm segments).flatMap_right _).length_eq

theorem slashedLength_putSegment_le
    (done : List (List Char))
    (s : List Char) :
    slashedLength (putSegment true done s) ≤ slashedLength done + (s.length + 1) := by
  have hdrop : slashedLength (done.drop 1) ≤ slashedLength done := by
    cases done with
    | nil => exact Nat.le_refl _
    | cons t done =>
        rw [List.drop_one, List.tail_cons, slashedLength_cons]
        exact Nat.le_add_left _ _
  unfold putSegment
  split
  · simp only [if_true, slashedLength_cons, List.length_nil]
    omega
  · split
    · simp only [if_true, slashedLength_cons, List.length_nil]
      omega
    · rw [slashedLength_cons, Nat.add_comm]

theorem putSegment_ne_nil
    (done : List (List Char))
    (s : List Char) :
    putSegment true done s ≠ [] := by
  unfold putSegment
  split
  · exact List.cons_ne_nil _ _
  · split
    · exact List.cons_ne_nil _ _
    · exact List.cons_ne_nil _ _

theorem length_cons_intercalate
    {segments : List (List Char)}
    (h : segments ≠ []) :
    ('/' :: ['/'].intercalate segments).length = slashedLength segments := by
  induction segments with
  | nil => exact absurd rfl h
  | cons s segments ih =>
      cases segments with
      | nil => simp [slashedLength]
      | cons t segments =>
          have hrest := ih (List.cons_ne_nil t segments)
          rw [List.intercalate_cons_of_ne_nil (List.cons_ne_nil t segments)]
          simp only [slashedLength_cons, List.length_cons, List.length_append,
            List.length_nil] at hrest ⊢
          omega

/-- More text without slashes belongs to the last segment. -/
theorem exists_splitOn_append
    {more : List Char}
    (hmore : '/' ∉ more)
    (cs : List Char) :
    ∃ init last, cs.splitOn '/' = init ++ [last] ∧
      (cs ++ more).splitOn '/' = init ++ [last ++ more] := by
  induction cs with
  | nil => exact ⟨[], [], rfl, List.splitOn_eq_singleton hmore⟩
  | cons c cs ih =>
      obtain ⟨init, last, hcs, hmore'⟩ := ih
      rw [List.cons_append, List.splitOn_cons_eq_if_modifyHead, List.splitOn_cons_eq_if_modifyHead,
        hcs, hmore']
      split
      · exact ⟨[] :: init, last, rfl, rfl⟩
      · cases init with
        | nil => exact ⟨[], c :: last, rfl, rfl⟩
        | cons s init => exact ⟨(c :: s) :: init, last, rfl, rfl⟩

/-- A path with more text in its last segment, a space at its end, is longer. -/
theorem length_joinPath_append
    {scheme : List Char}
    (hcommon : isCommon scheme = true)
    (above : List (List Char))
    (cs : List Char)
    {front : List Char}
    (hslash : '/' ∉ front)
    (hback : '\\' ∉ front) :
    (joinPath scheme above cs).length <
      (joinPath scheme above (cs ++ (front ++ [' ']))).length := by
  have hmap : (front ++ [' ']).map (fun c => if c = '\\' then '/' else c) = front ++ [' '] := by
    refine (List.map_congr_left fun c hc => if_neg ?_).trans (List.map_id _)
    rintro rfl
    simp [hback] at hc
  have hpart : '/' ∉ front ++ [' '] := by simp [hslash]
  obtain ⟨init, last, hcs, hmore⟩ :=
    exists_splitOn_append hpart (cs.map fun c => if c = '\\' then '/' else c)
  have hspace : percentEncode inPath (last ++ (front ++ [' '])) =
      percentEncode inPath last ++ (percentEncode inPath front ++ "%2".toList) ++ ['0'] := by
    rw [percentEncode_append, percentEncode_append]
    simp only [List.append_assoc]
    rfl
  have hsegments : segmentsOf true cs = init ++ [last] := hcs
  have hsegments' :
      segmentsOf true (cs ++ (front ++ [' '])) = init ++ [last ++ (front ++ [' '])] := by
    rw [segmentsOf, if_pos rfl, List.map_append, hmap, hmore]
  have hlength : ∀ done s, ('/' :: ['/'].intercalate (putSegment true done s).reverse).length =
      slashedLength (putSegment true done s) := by
    intro done s
    rw [length_cons_intercalate (by simpa using putSegment_ne_nil done s), slashedLength_reverse]
  rw [joinPath_eq hcommon, joinPath_eq hcommon, hsegments, hsegments', List.map_append,
    List.map_append, List.map_singleton, List.map_singleton, walkSegments_concat,
    walkSegments_concat, hlength, hlength, hspace, putSegment_concat (by decide)]
  refine Nat.lt_of_le_of_lt (slashedLength_putSegment_le _ _) ?_
  simp only [slashedLength_cons, List.length_append, List.length_singleton]
  omega

/-! ## Tails -/

@[simp] theorem withTail_path
    (u : Url)
    (cs : List Char) :
    (withTail u cs).path = u.path := by
  unfold withTail
  split <;> rfl

/-- The length of query and fragment as they are written. -/
def tailLength (u : Url) : Nat :=
  (writePart '?' u.query).length + (writePart '#' u.fragment).length

theorem length_percentEncode_append_space
    {p : Char → Bool}
    (hspace : p ' ' = true)
    (text front : List Char) :
    (percentEncode p text).length < (percentEncode p (text ++ (front ++ [' ']))).length := by
  have hcode : percentEncode p [' '] = "%20".toList := by
    rw [percentEncode, List.flatMap_singleton, if_pos (Or.inr hspace)]
    decide
  rw [percentEncode_append, percentEncode_append, hcode, List.length_append, List.length_append]
  change _ < _ + (_ + 3)
  omega

variable {front : List Char}

/-- Ignored characters hold no marks. -/
theorem ne_of_isEdge
    {c d : Char}
    (hd : isEdge d = false)
    (hc : isEdge c = true) :
    (c == d) = false := by
  rw [beq_eq_false_iff_ne]
  rintro rfl
  rw [hd] at hc
  cases hc

/-- What is put behind a text gets into its fragment, or into the text in front of that. -/
theorem fragmentOf?_append
    (hmore : ∀ c ∈ front ++ [' '], isEdge c = true)
    (cs : List Char) :
    (since (· == '#') cs = [] ∧ fragmentOf? (cs ++ (front ++ [' '])) = fragmentOf? cs ∧
        before (· == '#') (cs ++ (front ++ [' '])) = before (· == '#') cs ++ (front ++ [' '])) ∨
      ((writePart '#' (fragmentOf? cs)).length <
          (writePart '#' (fragmentOf? (cs ++ (front ++ [' '])))).length ∧
        before (· == '#') (cs ++ (front ++ [' '])) = before (· == '#') cs) := by
  have hplain : ∀ c ∈ front ++ [' '], (c == '#') = false :=
    fun c hc => ne_of_isEdge (by decide) (hmore c hc)
  rcases cut_append hplain cs with ⟨hnone, hbefore, hsince⟩ | ⟨hsome, hbefore, hsince⟩
  · refine Or.inl ⟨hnone, ?_, ?_⟩
    · rw [fragmentOf?, hsince, fragmentOf?, hnone]
    · have hboth := before_append_since (· == '#') cs
      rw [hnone, List.append_nil] at hboth
      rw [hbefore, hboth]
  · refine Or.inr ⟨?_, hbefore⟩
    obtain ⟨c, rest, hcs⟩ := List.exists_cons_of_ne_nil hsome
    rw [fragmentOf?, hcs, fragmentOf?, hsince, hcs]
    change (percentEncode inFragment rest).length + 1 <
      (percentEncode inFragment (rest ++ (front ++ [' ']))).length + 1
    exact Nat.succ_lt_succ (length_percentEncode_append_space (by decide) rest front)

/-- A tail with more text behind it is longer. -/
theorem tailLength_withTail_append
    (hmore : ∀ c ∈ front ++ [' '], isEdge c = true)
    (u : Url)
    {cs : List Char}
    (hcs : ∃ c, cs.head? = some c ∧ endsPath c = true) :
    tailLength (withTail u cs) < tailLength (withTail u (cs ++ (front ++ [' ']))) := by
  obtain ⟨c, hhead, hends⟩ := hcs
  obtain ⟨rest, rfl⟩ := List.head?_eq_some_iff.1 hhead
  by_cases hquery : c = '?'
  · subst hquery
    simp only [tailLength, List.cons_append, withTail, queryOf, writePart, List.length_cons]
    rcases fragmentOf?_append hmore rest with ⟨-, hfragment, hbefore⟩ | ⟨hfragment, hbefore⟩
    · rw [hfragment, hbefore]
      have hlonger : ∀ special : Bool, ∀ text : List Char,
          (percentEncode (if special = true then inCommonQuery else inQuery) text).length <
            (percentEncode (if special = true then inCommonQuery else inQuery)
              (text ++ (front ++ [' ']))).length := by
        intro special text
        cases special <;> exact length_percentEncode_append_space (by decide) text front
      exact Nat.add_lt_add_right (Nat.succ_lt_succ (hlonger _ _)) _
    · rw [hbefore]
      exact Nat.add_lt_add_left hfragment _
  · have hmark : c = '#' := by
      simpa [endsPath, hquery] using hends
    subst hmark
    rw [List.cons_append, withTail_of_head?_ne u (by simp), withTail_of_head?_ne u (by simp),
      ← List.cons_append]
    rcases fragmentOf?_append hmore ('#' :: rest) with ⟨hnone, -, -⟩ | ⟨hfragment, -⟩
    · cases hnone
    · exact Nat.add_lt_add_left hfragment _

/-! ## URLs -/

theorem length_write_urlOf
    (scheme : List Char)
    (authority : Authority)
    (back : List Char) :
    (urlOf scheme authority back).write.length =
      scheme.length + 3 + (authority.writeUser ++ authority.writeHost).length +
        (pathBehindHost scheme (before endsPath back)).length +
        tailLength (urlOf scheme authority back) := by
  have hauthority : (urlOf scheme authority back).authority = some authority := by
    rw [urlOf, withTail_authority]
  have hpath : (urlOf scheme authority back).path =
      pathBehindHost scheme (before endsPath back) := by
    rw [urlOf, withTail_path]
  have hscheme : (urlOf scheme authority back).scheme = scheme := by
    rw [urlOf, withTail_scheme]
  rw [write_eq hauthority, hpath, hscheme, tailLength]
  simp only [List.length_append, List.length_cons]
  omega

/-- With more text behind its authority, a URL is longer. -/
theorem length_urlOf_append
    {scheme : List Char}
    (hcommon : isCommon scheme = true)
    (authority : Authority)
    {back : List Char}
    (hback : ∃ c, back.head? = some c ∧ endsAuthority true c = true)
    (hmore : ∀ c ∈ front ++ [' '], isEdge c = true) :
    (urlOf scheme authority back).write.length <
      (urlOf scheme authority (back ++ (front ++ [' ']))).write.length := by
  obtain ⟨c, hhead, hends⟩ := hback
  obtain ⟨rest, rfl⟩ := List.head?_eq_some_iff.1 hhead
  have hplain : ∀ d ∈ front ++ [' '], endsPath d = false := by
    intro d hd
    rw [endsPath, Bool.or_eq_false_iff]
    exact ⟨ne_of_isEdge (by decide) (hmore d hd), ne_of_isEdge (by decide) (hmore d hd)⟩
  rw [length_write_urlOf, length_write_urlOf]
  rcases cut_append hplain (c :: rest) with ⟨hnone, hbefore, hsince⟩ | ⟨hsome, hbefore, hsince⟩
  · -- There is nothing but a path.
    have hwhole : before endsPath (c :: rest) = c :: rest := by
      have hboth := before_append_since endsPath (c :: rest)
      rwa [hnone, List.append_nil] at hboth
    have hslash : c = '/' ∨ c = '\\' := by
      have hc : c ∈ before endsPath (c :: rest) := by
        rw [hwhole]
        exact List.mem_cons_self
      have hkept : endsPath c = false := by simpa using List.mem_takeWhile_imp hc
      simp only [endsPath, Bool.or_eq_false_iff, decide_eq_false_iff_not] at hkept
      simpa [endsAuthority, hkept] using hends
    have hpath : ∀ text, pathBehindHost scheme (c :: text) = joinPath scheme [] text := by
      intro text
      rw [pathBehindHost, hcommon, if_pos (by simpa using hslash)]
    have hslash' : '/' ∉ front := fun hmem => absurd (hmore '/' (by simp [hmem])) (by decide)
    have hback' : '\\' ∉ front := fun hmem => absurd (hmore '\\' (by simp [hmem])) (by decide)
    have hlonger := length_joinPath_append hcommon [] rest hslash' hback'
    have htail :
        ∀ text, since endsPath text = [] → tailLength (urlOf scheme authority text) = 0 := by
      intro text htext
      rw [urlOf, htext]
      rfl
    rw [htail _ hnone, htail _ hsince, hwhole, hbefore, List.cons_append, hpath, hpath]
    omega
  · -- The path ends in front of a query or a fragment.
    obtain ⟨d, behind, hbehind⟩ := List.exists_cons_of_ne_nil hsome
    have hd : endsPath d = true := by simpa using head_dropWhile hbehind
    have hmark : ∃ d, (since endsPath (c :: rest)).head? = some d ∧ endsPath d = true :=
      ⟨d, by rw [hbehind]; rfl, hd⟩
    have hlonger := tailLength_withTail_append hmore
      ⟨scheme, some authority, pathBehindHost scheme (before endsPath (c :: rest)), none, none⟩
      hmark
    rw [hbefore]
    refine Nat.add_lt_add_left ?_ _
    rw [urlOf, urlOf, hbefore, hsince]
    exact hlonger

/-- If the spaces of a URL are written as octets, those behind it make it longer, or they are in the
way of reading it. -/
theorem length_lt_of_parse
    {cs : List Char}
    {u v : Url}
    (h : parse cs = .ok u)
    (hcommon : isCommon u.scheme = true)
    (hbehind : SpaceBehind cs)
    (h' : parse (replaceChar ' ' "%20".toList cs) = .ok v) :
    u.write.length < v.write.length := by
  obtain ⟨name, slashes, authority, back, read, lead, body, tail, hparted, hedged, hname, hread,
    rfl⟩ := exists_parted_edged h hcommon
  have hlead := not_spaceInFront_of_parse h'
  rw [SpaceInFront, hedged.takeWhile] at hlead
  rw [SpaceBehind, hedged.takeWhile_reverse, List.mem_reverse] at hbehind
  obtain ⟨more, hclean, hmore, ⟨-, hnone⟩ | ⟨-, front, rfl⟩⟩ := hedged.cleaned_replaceChar hlead
  · exact absurd hbehind hnone
  · cases back with
    | nil =>
        -- A place does not take in a space.
        have hlonger := (hparted.extend_authority hmore).replaceChar
        rw [← hclean] at hlonger
        rw [hlonger.parse_eq hname, splitUser_replaceChar] at h'
        obtain ⟨read', hread', -⟩ := exists_of_map_eq_ok h'
        dsimp only at hread'
        rw [splitUser_append _ fun hmem => absurd (hmore '@' hmem) (by decide)] at hread'
        have hback : '\\' ∉ (splitUser authority).2 ++ (front ++ [' ']) := by
          rw [List.mem_append, not_or]
          exact ⟨fun hmem => backslash_not_mem hparted.authority (splitUser_subset _ hmem),
            fun hmem => absurd (hmore '\\' hmem) (by decide)⟩
        exact absurd (by simp) (space_not_mem_of_readPlace hread' hback)
    | cons c rest =>
        have hlonger := (hparted.extend_back (front ++ [' '])).replaceChar
        rw [← hclean] at hlonger
        rw [hlonger.parse_eq hname, readPlace_replaceChar hread (backslash_not_mem hparted.authority),
          splitUser_replaceChar] at h'
        obtain rfl := Except.ok.inj h'
        dsimp only
        rw [authorityOf_replaceChar, urlOf_replaceChar hname]
        exact length_urlOf_append hname _ ⟨c, rfl, hparted.back c rfl⟩ hmore

end Url
end LinkLedger
