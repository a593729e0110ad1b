import LinkLedger.Proofs.Link.FixedPoint
import LinkLedger.Proofs.Link.Merging

/-!
# Bases that are paths on the site

The base of content may be given as a path, which is meant to lie on the site.  For references with
a path of their own it does not matter whether the site is spelled in front of the base.  A blank
reference, a query alone and a fragment alone are put behind the base as it is spelled, so with a
path for a base they come out as paths, without the site.

**Results.**
* `IsPathless`: the references that are put behind the base as it stands.
* `resolve_of_pathless`, `resolve_of_not_pathless`: what the base is used for.
* `resolve_behind_site`: the two spellings of a base on the site compared.
* `resolve_query_below_path`: a query alone, which shows that they differ.
-/

namespace LinkLedger
namespace Link

open Text

/-- A trimmed reference without a path of its own: nothing, or a query or a fragment alone. -/
def IsPathless (raw : List Char) : Prop :=
  ∀ c ∈ raw.head?, endsPath c = true

instance : DecidablePred IsPathless := fun raw =>
  decidable_of_iff (raw.head?.all endsPath = true) (by
    cases raw with
    | nil => simp [IsPathless]
    | cons c cs => simp [IsPathless])

/-! ## What the base is used for -/

/-- The base up to the mark that a pathless reference replaces. -/
def cutBase (raw base : List Char) : List Char :=
  match raw with
  | '?' :: _ => before endsPath (trim base)
  | _ => before (· == '#') (trim base)

/-- A pathless reference is put behind the base. -/
theorem resolve_of_pathless
    {raw : List Char}
    (h : IsPathless (trim raw))
    (base site : List Char) :
    resolve raw base site = cutBase (trim raw) base ++ trim raw := by
  have hcut := before_query_before_fragment (trim base)
  unfold resolve cutBase
  dsimp only
  cases hraw : trim raw with
  | nil =>
      rw [List.append_nil]
      rfl
  | cons c rest =>
      have hc : c = '?' ∨ c = '#' := by
        simpa [hraw, IsPathless, endsPath] using h
      have hpayload : sitePayload? (c :: rest) = none :=
        sitePayload?_of_head_not_mem (by rcases hc with rfl | rfl <;> decide)
      rw [hpayload]
      rcases hc with rfl | rfl
      · rw [← hcut]
        rfl
      · rfl

/-- Another reference depends on the root of the base and the path from there, or on neither. -/
theorem resolve_of_not_pathless
    {raw base base' site : List Char}
    (h : ¬ IsPathless (trim raw))
    (hsplit : splitBase (before endsPath (trim base)) site =
      splitBase (before endsPath (trim base')) site) :
    resolve raw base site = resolve raw base' site := by
  unfold resolve
  dsimp only
  rw [before_query_before_fragment, before_query_before_fragment]
  cases sitePayload? (trim raw) with
  | some payload => rfl
  | none =>
      dsimp only
      split
      · rfl
      · split
        · next hnil => exact absurd (by rw [hnil]; simp [IsPathless]) h
        · next hfragment => exact absurd (by rw [hfragment]; simp [IsPathless, endsPath]) h
        · next hquery => exact absurd (by rw [hquery]; simp [IsPathless, endsPath]) h
        · rw [resolvePath, resolvePath, hsplit]

/-! ## The two spellings of a base -/

variable {site path : List Char}

/-- Trimming a path behind the address of a site is trimming the path. -/
theorem trim_behind_site
    (hsite : ∃ c, site.head? = some c ∧ c.isAlpha = true)
    (hpath : path.head? = some '/') :
    trim (site ++ path) = site ++ trim path := by
  obtain ⟨c, hhead, halpha⟩ := hsite
  obtain ⟨front, rfl⟩ := List.head?_eq_some_iff.1 hhead
  obtain ⟨rest, rfl⟩ := List.head?_eq_some_iff.1 hpath
  have hslash : isBlank '/' = false := by decide
  rw [trim, trim, List.cons_append,
    List.dropWhile_cons_of_neg (by simp [isBlank_eq_false_of_isAlpha halpha]),
    List.dropWhile_cons_of_neg (by simp [hslash]), ← List.cons_append,
    trimEndBy_append_cons_of_neg hslash, trimEndBy_cons_of_neg hslash]

theorem head?_trim_path
    (hpath : path.head? = some '/') :
    (trim path).head? = some '/' := by
  obtain ⟨rest, rfl⟩ := List.head?_eq_some_iff.1 hpath
  have hslash : isBlank '/' = false := by decide
  rw [trim, List.dropWhile_cons_of_neg (by simp [hslash]), trimEndBy_cons_of_neg hslash]
  rfl

theorem trim_prefix_path
    (hpath : path.head? = some '/') :
    trim path <+: path := by
  obtain ⟨rest, rfl⟩ := List.head?_eq_some_iff.1 hpath
  have hslash : isBlank '/' = false := by decide
  rw [trim, List.dropWhile_cons_of_neg (by simp [hslash]), trimEndBy]
  exact List.reverse_suffix.1 (by rw [List.reverse_reverse]; exact List.dropWhile_suffix _)

theorem head?_before
    {p : Char → Bool}
    {c : Char}
    {cs : List Char}
    (hhead : cs.head? = some c)
    (hc : p c = false) :
    (before p cs).head? = some c := by
  obtain ⟨rest, rfl⟩ := List.head?_eq_some_iff.1 hhead
  rw [before, List.takeWhile_cons_of_pos (by simp [hc])]
  rfl

/-- A base that is a path has the site for its root, spelled in front of it or not. -/
theorem splitBase_behind_site
    (hsite : ∃ c, site.head? = some c ∧ c.isAlpha = true)
    (hpath : path.head? = some '/')
    (hmark : ¬ "://".toList <:+: path) :
    splitBase (site ++ path) site = splitBase path site := by
  have helsewhere : ¬ OnSite site path := by
    rintro ⟨rest, rfl, -⟩
    obtain ⟨c, hhead, halpha⟩ := hsite
    rw [List.head?_append, hhead] at hpath
    rw [Option.some.inj (show some c = some '/' from hpath)] at halpha
    cases halpha
  rw [splitBase_of_isPathBehind (Or.inr hpath),
    splitBase_of_placedAt (PlacedAt.withoutHost helsewhere hmark)]

/-- The cut base and a pathless reference behind it start with one slash if the base does. -/
theorem one_slash_of_pathless
    {raw cut : List Char}
    (hraw : IsPathless raw)
    (hhead : cut.head? = some '/')
    (hfront : cut <+: path)
    (hslashes : ¬ "//".toList <+: path) :
    (cut ++ raw).head? = some '/' ∧ ¬ "//".toList <+: cut ++ raw := by
  obtain ⟨rest, rfl⟩ := List.head?_eq_some_iff.1 hhead
  refine ⟨rfl, ?_⟩
  rintro ⟨back, hback⟩
  cases rest with
  | nil =>
      change '/' :: '/' :: back = '/' :: raw at hback
      injection hback with _ hback
      subst hback
      exact absurd (hraw '/' rfl) (by decide)
  | cons d rest =>
      change '/' :: '/' :: back = '/' :: d :: (rest ++ raw) at hback
      injection hback with _ hback
      injection hback with hd
      subst hd
      exact hslashes (List.IsPrefix.trans ⟨rest, rfl⟩ hfront)

/--
A base that is a path on the site gives the same links as the base with the site spelled in front of
it exactly for the references that are not put behind the base.  Those that are come out as paths,
with neither a scheme nor a host, and behind the site if it is spelled in front of the base.
-/
theorem resolve_behind_site
    (hsite : ∃ c, site.head? = some c ∧ c.isAlpha = true)
    (hplain : ∀ c ∈ site, endsPath c = false)
    (hpath : path.head? = some '/')
    (hslashes : ¬ "//".toList <+: path)
    (hmark : ¬ "://".toList <:+: path)
    (raw : List Char) :
    (resolve raw path site = resolve raw (site ++ path) site ↔ ¬ IsPathless (trim raw)) ∧
      (IsPathless (trim raw) →
        resolve raw (site ++ path) site = site ++ resolve raw path site ∧
          (resolve raw path site).head? = some '/' ∧ ¬ "//".toList <+: resolve raw path site) := by
  have hfragment : ∀ c ∈ site, (c == '#') = false := by
    intro c hc
    have hends := hplain c hc
    simp only [endsPath, Bool.or_eq_false_iff, decide_eq_false_iff_not] at hends
    simpa using hends.2
  have hcut : ∀ p : Char → Bool, p '/' = false → (∀ c ∈ site, p c = false) →
      before p (trim (site ++ path)) = site ++ before p (trim path) ∧
        (before p (trim path)).head? = some '/' ∧ before p (trim path) <+: path := by
    intro p hslash hp
    rw [trim_behind_site hsite hpath]
    exact ⟨before_append hp _, head?_before (head?_trim_path hpath) hslash,
      (List.takeWhile_prefix _).trans (trim_prefix_path hpath)⟩
  have hpathless : IsPathless (trim raw) →
      resolve raw (site ++ path) site = site ++ resolve raw path site ∧
        (resolve raw path site).head? = some '/' ∧ ¬ "//".toList <+: resolve raw path site := by
    intro hraw
    have hbase : cutBase (trim raw) (site ++ path) = site ++ cutBase (trim raw) path ∧
        (cutBase (trim raw) path).head? = some '/' ∧ cutBase (trim raw) path <+: path := by
      unfold cutBase
      split
      · exact hcut endsPath (by decide) hplain
      · exact hcut (· == '#') (by decide) hfragment
    obtain ⟨hbefore, hhead, hfront⟩ := hbase
    rw [resolve_of_pathless hraw, resolve_of_pathless hraw, hbefore, List.append_assoc]
    exact ⟨rfl, one_slash_of_pathless hraw hhead hfront hslashes⟩
  refine ⟨⟨fun hsame hraw => ?_, fun hraw => ?_⟩, hpathless⟩
  · obtain ⟨c, hc, -⟩ := hsite
    rw [(hpathless hraw).1] at hsame
    rw [List.self_eq_append_left.1 hsame] at hc
    cases hc
  · obtain ⟨hbefore, hhead, hfront⟩ := hcut endsPath (by decide) hplain
    refine resolve_of_not_pathless hraw ?_
    rw [hbefore]
    exact (splitBase_behind_site hsite hhead fun hmarked =>
      hmark (hmarked.trans hfront.isInfix)).symm

/-- A query alone against a path on the site: the link has neither a scheme nor a host. -/
theorem resolve_query_below_path :
    resolve "?page=2".toList "/node/1".toList "http://host".toList = "/node/1?page=2".toList ∧
      resolve "?page=2".toList ("http://host".toList ++ "/node/1".toList) "http://host".toList =
        "http://host/node/1?page=2".toList ∧
      resolve "?page=2".toList "/node/1".toList "http://host".toList ≠
        resolve "?page=2".toList ("http://host".toList ++ "/node/1".toList)
          "http://host".toList := by
  decide

/-- A fragment alone, and a reference with a path, against a path in the directory of a site. -/
theorem resolve_behind_site_directory :
    resolve "#top".toList ("http://host/cms".toList ++ "/a/b?p#q".toList)
          "http://host/cms".toList =
        "http://host/cms".toList ++
          resolve "#top".toList "/a/b?p#q".toList "http://host/cms".toList ∧
      resolve " ../c ".toList "/a/b?p#q".toList "http://host/cms".toList =
        resolve " ../c ".toList ("http://host/cms".toList ++ "/a/b?p#q".toList)
          "http://host/cms".toList := by
  have hplain : ("http://host/cms".toList.all fun c => !endsPath c) = true := by decide
  have hall := @resolve_behind_site "http://host/cms".toList "/a/b?p#q".toList
    ⟨'h', rfl, rfl⟩ (fun c hc => by simpa using List.all_eq_true.1 hplain c hc) rfl (by decide)
    (not_isInfix_of_splitFirst?_eq_none (by decide) (by decide))
  exact ⟨((hall "#top".toList).2 (by decide)).1, (hall " ../c ".toList).1.2 (by decide)⟩

end Link
end LinkLedger
