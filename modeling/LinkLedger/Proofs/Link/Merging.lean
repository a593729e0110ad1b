import LinkLedger.Proofs.Link.DotSegments
import Mathlib.Data.List.TakeWhile

/-!
# References below a root

The address of content is parted into a root and a path below it.  A reference with a path is merged
with that path, and the outcome hangs below the root, however far the reference leads upwards.

**Results.**
* `PlacedAt`: the root of an address and the path from there.
* `placedAt_splitBase`, `splitBase_of_placedAt`: there is exactly one way to part an address.
* `resolve_eq_targetPath`: absolute forms by the rules of RFC 3986.
-/

namespace LinkLedger

/-! ## First occurrences of a text -/

namespace Text

variable {pattern cs front rest : List Char}

theorem not_isPrefix_of_isPrefixOf?
    (h : pattern.isPrefixOf? cs = none) :
    ¬ pattern <+: cs := by
  rintro ⟨rest, hstart⟩
  rw [List.isPrefixOf?_eq_some_iff_append_eq.2 hstart] at h
  cases h

/-- The text in front of the first occurrence has none. -/
theorem not_isInfix_of_splitFirst?
    (hpattern : pattern ≠ [])
    (h : splitFirst? pattern cs = some (front, rest)) :
    ¬ pattern <:+: front := by
  induction cs generalizing front rest with
  | nil =>
      rw [splitFirst?, if_neg (by simpa using hpattern)] at h
      cases h
  | cons c cs ih =>
      rw [splitFirst?] at h
      split at h
      · cases h
        simpa using hpattern
      · next hnone =>
        obtain ⟨⟨front', rest'⟩, hsplit, hpair⟩ := Option.map_eq_some_iff.1 h
        cases hpair
        rw [List.infix_cons_iff]
        rintro (hstarts | hinfix)
        · have hcs := eq_append_of_splitFirst? hsplit
          refine not_isPrefix_of_isPrefixOf? hnone (hstarts.trans ⟨pattern ++ rest, ?_⟩)
          simp [hcs]
        · exact ih hsplit hinfix

theorem splitFirst?_eq_none
    (h : ¬ pattern <:+: cs) :
    splitFirst? pattern cs = none := by
  cases hsplit : splitFirst? pattern cs with
  | none => rfl
  | some parts => exact absurd ⟨_, _, (eq_append_of_splitFirst? hsplit).symm⟩ h

theorem not_isInfix_of_splitFirst?_eq_none
    (hpattern : pattern ≠ [])
    (h : splitFirst? pattern cs = none) :
    ¬ pattern <:+: cs := by
  induction cs with
  | nil => simpa using hpattern
  | cons c cs ih =>
      rw [splitFirst?] at h
      split at h
      · cases h
      · next hnone =>
        rw [List.infix_cons_iff]
        rintro (hstarts | hinfix)
        · exact not_isPrefix_of_isPrefixOf? hnone hstarts
        · exact ih (Option.map_eq_none_iff.1 h) hinfix

/-- The mark behind a scheme does not overlap itself, so it first occurs behind a text without
it. -/
theorem splitFirst?_mark_append
    (h : ¬ "://".toList <:+: front) :
    splitFirst? "://".toList (front ++ "://".toList ++ rest) = some (front, rest) := by
  induction front with
  | nil => rfl
  | cons c front ih =>
      rw [List.infix_cons_iff, not_or] at h
      have hnone : "://".toList.isPrefixOf? (c :: (front ++ "://".toList ++ rest)) = none := by
        cases hstart : "://".toList.isPrefixOf? (c :: (front ++ "://".toList ++ rest)) with
        | none => rfl
        | some behind =>
            have happend := eq_append_of_isPrefixOf? hstart
            match front, h.1 with
            | [], _ => simp at happend
            | [d], _ => simp at happend
            | d :: e :: front, hstarts =>
                refine absurd ⟨front, ?_⟩ hstarts
                simp at happend
                simp [happend]
      rw [List.cons_append, List.cons_append, splitFirst?, hnone]
      dsimp only
      rw [ih h.2]
      rfl

end Text

namespace Link

open Text GenericSyntax

/-! ## The root of an address -/

/-- A path behind the name of a host or the address of a site. -/
def IsPathBehind (path : List Char) : Prop :=
  path = [] ∨ path.head? = some '/'

/-- An address that is the one of the site or lies below it. -/
def OnSite (site place : List Char) : Prop :=
  ∃ path, place = site ++ path ∧ IsPathBehind path

/-- An address, the root that it lies below, and the path from there. -/
inductive PlacedAt (site : List Char) :
    List Char → List Char → List Char → Prop
  | onSite
      {path : List Char}
      (hpath : IsPathBehind path) :
      PlacedAt site (site ++ path) site path
  | onHost
      {scheme authority path : List Char}
      (helsewhere : ¬ OnSite site (scheme ++ "://".toList ++ (authority ++ path)))
      (hscheme : ¬ "://".toList <:+: scheme)
      (hauthority : '/' ∉ authority)
      (hpath : IsPathBehind path) :
      PlacedAt site (scheme ++ "://".toList ++ (authority ++ path))
        (scheme ++ "://".toList ++ authority) path
  | withoutHost
      {path : List Char}
      (helsewhere : ¬ OnSite site path)
      (hhost : ¬ "://".toList <:+: path) :
      PlacedAt site path site path

theorem splitBase_of_isPathBehind
    {path : List Char}
    (h : IsPathBehind path)
    (site : List Char) :
    splitBase (site ++ path) site = (site, path) := by
  unfold splitBase
  dsimp only
  rw [List.isPrefixOf?_eq_some_iff_append_eq.2 (rfl : site ++ path = site ++ path)]
  rcases h with rfl | hhead
  · rfl
  · obtain ⟨rest, rfl⟩ := List.head?_eq_some_iff.1 hhead
    rfl

theorem splitBase_of_not_onSite
    {site place : List Char}
    (h : ¬ OnSite site place) :
    splitBase place site = (splitHost? place).getD (site, place) := by
  unfold splitBase
  dsimp only
  split
  · next hstart => exact absurd ⟨[], eq_append_of_isPrefixOf? hstart, Or.inl rfl⟩ h
  · next path hstart => exact absurd ⟨_, eq_append_of_isPrefixOf? hstart, Or.inr rfl⟩ h
  · rfl

/-- An address is parted in one way at most. -/
theorem splitBase_of_placedAt
    {site place root path : List Char}
    (h : PlacedAt site place root path) :
    splitBase place site = (root, path) := by
  cases h with
  | onSite hpath => exact splitBase_of_isPathBehind hpath site
  | @onHost scheme authority path helsewhere hscheme hauthority hpath =>
      have hbehind : path = [] ∨ ∃ more, path = '/' :: more :=
        hpath.imp_right List.head?_eq_some_iff.1
      obtain ⟨hbefore, hsince⟩ := before_segment hauthority hbehind
      rw [splitBase_of_not_onSite helsewhere, splitHost?, splitFirst?_mark_append hscheme,
        Option.map_some, Option.getD_some]
      dsimp only
      rw [hbefore, hsince]
  | withoutHost helsewhere hhost =>
      rw [splitBase_of_not_onSite helsewhere, splitHost?, splitFirst?_eq_none hhost]
      rfl

/-- Every address is parted in one way. -/
theorem placedAt_splitBase
    (site place : List Char) :
    PlacedAt site place (splitBase place site).1 (splitBase place site).2 := by
  by_cases hsite : OnSite site place
  · obtain ⟨path, rfl, hpath⟩ := hsite
    rw [splitBase_of_isPathBehind hpath]
    exact PlacedAt.onSite hpath
  · have hmark : "://".toList ≠ [] := by decide
    rw [splitBase_of_not_onSite hsite, splitHost?]
    cases hsplit : splitFirst? "://".toList place with
    | none => exact PlacedAt.withoutHost hsite (not_isInfix_of_splitFirst?_eq_none hmark hsplit)
    | some parts =>
        obtain ⟨scheme, rest⟩ := parts
        have hplace := eq_append_of_splitFirst? hsplit
        rw [← before_append_since (· == '/') rest] at hplace
        have hscheme := not_isInfix_of_splitFirst? hmark hsplit
        have hauthority : '/' ∉ before (· == '/') rest := by
          intro hmem
          simpa using List.mem_takeWhile_imp hmem
        have hpath : IsPathBehind (since (· == '/') rest) := by
          cases hsince : since (· == '/') rest with
          | nil => exact Or.inl rfl
          | cons c more =>
              have hc := head_dropWhile hsince
              exact Or.inr (by simpa using hc)
        subst hplace
        exact PlacedAt.onHost hsite hscheme hauthority hpath

/-! ## Absolute forms -/

theorem before_query_before_fragment
    (cs : List Char) :
    before (· == '?') (before (· == '#') cs) = before endsPath cs := by
  rw [before, before, before, List.takeWhile_takeWhile]
  congr 1
  funext c
  simp [endsPath]

/-- A reference with a path is merged with the address of its content. -/
theorem resolve_of_path
    {raw : List Char}
    (hraw : trim raw ≠ [])
    (hpayload : sitePayload? (trim raw) = none)
    (hscheme : hasScheme (trim raw) = false)
    (hhost : ¬ "//".toList <+: trim raw)
    (hmark : ∀ c, (trim raw).head? = some c → endsPath c = false)
    (base site : List Char) :
    resolve raw base site = resolvePath (trim raw) (before endsPath (trim base)) site := by
  have habsolute : ¬ ("//".toList.isPrefixOf (trim raw) || hasScheme (trim raw)) = true := by
    rw [hscheme, Bool.or_false, List.isPrefixOf_iff_prefix]
    exact hhost
  unfold resolve
  dsimp only
  rw [hpayload]
  dsimp only
  rw [if_neg habsolute, before_query_before_fragment]
  split
  · next hnil => exact absurd hnil hraw
  · next hfragment => exact absurd (hmark '#' (by rw [hfragment]; rfl)) (by decide)
  · next hquery => exact absurd (hmark '?' (by rw [hquery]; rfl)) (by decide)
  · rfl

/--
The absolute form of a reference with a path is the path that the rules give, below the root of the
address of its content, and behind it the query and the fragment as they stand.  It never leaves the
root.
-/
theorem resolve_eq_targetPath
    {raw base site : List Char}
    (hraw : trim raw ≠ [])
    (hpayload : sitePayload? (trim raw) = none)
    (hscheme : hasScheme (trim raw) = false)
    (hhost : ¬ "//".toList <+: trim raw)
    (hmark : ∀ c, (trim raw).head? = some c → endsPath c = false) :
    (∃ root path, PlacedAt site (before endsPath (trim base)) root path) ∧
      ∀ root path, PlacedAt site (before endsPath (trim base)) root path →
        ¬ "//".toList <+: path →
        (∀ s ∈ (path.splitOn '/').dropLast, ¬ IsDotSegment s) →
          resolve raw base site =
              root ++ targetPath (rooted path) (before endsPath (trim raw)) ++
                since endsPath (trim raw) ∧
            ∃ below, targetPath (rooted path) (before endsPath (trim raw)) = '/' :: below ∧
              ∀ s ∈ below.splitOn '/', ¬ IsDotSegment s := by
  refine ⟨⟨_, _, placedAt_splitBase site _⟩, ?_⟩
  intro root path hplace hslash hdots
  have hpath : ¬ "//".toList <+: before endsPath (trim raw) :=
    fun hstarts => hhost (hstarts.trans (List.takeWhile_prefix _))
  have hdirectory : ∀ s ∈ directory path, ¬ IsDotSegment s :=
    fun s hs => hdots s (directory_subset hslash hs)
  have hmerge := targetPath_eq_cons_mergePath hpath hslash hdirectory
  have hresolve := resolve_of_path hraw hpayload hscheme hhost hmark base site
  rw [resolvePath, splitBase_of_placedAt hplace] at hresolve
  refine ⟨?_, _, hmerge, not_isDotSegment_of_mem_mergePath hdirectory⟩
  rw [hresolve, hmerge]

/-- A reference from a page on the site that leads further up than the site goes. -/
theorem resolve_eq_targetPath_climbing :
    resolve " ../../../x/./y/..?q=../z ".toList "http://host/cms/a/b?p=1#top".toList
          "http://host/cms".toList =
        "http://host/cms".toList ++
          targetPath (rooted "/a/b".toList) "../../../x/./y/..".toList ++ "?q=../z".toList ∧
      targetPath (rooted "/a/b".toList) "../../../x/./y/..".toList = "/x/".toList := by
  have hplace : PlacedAt "http://host/cms".toList
      (before endsPath (trim "http://host/cms/a/b?p=1#top".toList))
      "http://host/cms".toList "/a/b".toList := PlacedAt.onSite (Or.inr rfl)
  have hmark : ∀ c, (trim " ../../../x/./y/..?q=../z ".toList).head? = some c →
      endsPath c = false := by
    intro c hc
    have hhead : (trim " ../../../x/./y/..?q=../z ".toList).head? = some '.' := by decide
    rw [hhead] at hc
    rw [← Option.some.inj hc]
    rfl
  have hall := @resolve_eq_targetPath " ../../../x/./y/..?q=../z ".toList
    "http://host/cms/a/b?p=1#top".toList "http://host/cms".toList
    (by decide) (by decide) (by decide) (by decide) hmark
  exact ⟨(hall.2 _ _ hplace (by decide) (by decide)).1, by cbv⟩

end Link
end LinkLedger
